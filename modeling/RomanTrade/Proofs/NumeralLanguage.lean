import Mathlib.Data.List.Count
import RomanTrade.Proofs.NumeralRules

/-!
# The language of valid numerals

The texts that are accepted, described by their characters and substrings.  A rule about any number
of symbols, such as a run that is resumed, always shows in a stretch of four.
-/

namespace RomanTrade

namespace Symbol

theorem letter_injective : Function.Injective Symbol.letter := by
  intro left right hsame
  have hread := Symbol.ofLetter?_letter left
  rw [hsame, Symbol.ofLetter?_letter] at hread
  exact (Option.some.inj hread).symm

theorem isSingle_iff {symbol : Symbol} : symbol.isSingle = true ↔ symbol ∈ [Symbol.V, .L, .D] := by
  cases symbol <;> decide

theorem isRepeatable_iff {symbol : Symbol} :
    symbol.isRepeatable = true ↔ symbol ∈ [Symbol.I, .X, .C, .M] := by
  cases symbol <;> decide

theorem subtractsFrom_iff {left right : Symbol} :
    left.subtractsFrom right = true ↔
      left.text ++ right.text ∈ ["IV", "IX", "XL", "XC", "CD", "CM"] := by
  cases left <;> cases right <;> decide

theorem mem_letters_iff {c : Char} :
    c ∈ ['I', 'V', 'X', 'L', 'C', 'D', 'M'] ↔ ∃ symbol : Symbol, symbol.letter = c := by
  have hletters : ['I', 'V', 'X', 'L', 'C', 'D', 'M'] = Symbol.all.map Symbol.letter := rfl
  rw [hletters, List.mem_map]
  simp only [Symbol.mem_all, true_and]

end Symbol

namespace Numeral

theorem map_letter_infix_iff {stretch numeral : Numeral} :
    stretch.map Symbol.letter <:+: numeral.map Symbol.letter ↔ stretch <:+: numeral := by
  constructor
  · intro hletters
    obtain ⟨other, hother, hsame⟩ := List.infix_map_iff.mp hletters
    have hstretch := (List.map_inj_right fun _ _ heq => Symbol.letter_injective heq).mp hsame
    rwa [hstretch]
  · intro hstretch
    exact hstretch.map Symbol.letter

theorem count_map_letter (symbol : Symbol) (numeral : Numeral) :
    (numeral.map Symbol.letter).count symbol.letter = numeral.count symbol :=
  List.count_map_of_injective numeral Symbol.letter Symbol.letter_injective symbol

theorem infix_text_iff {stretch numeral : Numeral} :
    stretch.map Symbol.letter <:+: numeral.text.toList ↔ stretch <:+: numeral := by
  rw [toList_text, map_letter_infix_iff]

/-- However long the two runs are, the shortest such stretch lies around the smaller symbol. -/
theorem infix_of_resumed {R between : Char} {early late : Nat} (hearly : 1 ≤ early)
    (hlate : 2 ≤ late) :
    [R, between, R, R] <:+: List.replicate early R ++ between :: List.replicate late R := by
  obtain ⟨front, rfl⟩ : ∃ front, early = front + 1 := ⟨early - 1, by omega⟩
  obtain ⟨back, rfl⟩ : ∃ back, late = back + 2 := ⟨late - 2, by omega⟩
  refine ⟨List.replicate front R, List.replicate back R, ?_⟩
  rw [List.replicate_succ', List.replicate_succ, List.replicate_succ]
  simp only [List.append_assoc, List.cons_append, List.nil_append]

/-- The writing rules as rules about the characters and substrings of a text. -/
structure WrittenByRules (written : String) : Prop where
  nonempty : written ≠ ""
  letters : ∀ c ∈ written.toList, c ∈ ['I', 'V', 'X', 'L', 'C', 'D', 'M']
  single : ∀ symbol ∈ [Symbol.V, .L, .D], written.toList.count symbol.letter ≤ 1
  shortRun : ∀ symbol ∈ [Symbol.I, .X, .C, .M],
    ¬ List.replicate 4 symbol.letter <:+: written.toList
  notResumed : ∀ symbol ∈ [Symbol.I, .X, .C, .M], ∀ between : Symbol,
    between.value < symbol.value → ∀ early late, 1 ≤ early → early ≤ 3 → 2 ≤ late →
      ¬ List.replicate early symbol.letter ++ between.letter :: List.replicate late symbol.letter
        <:+: written.toList
  legalPair : ∀ left right : Symbol, [left.letter, right.letter] <:+: written.toList →
    left.value < right.value → left.text ++ right.text ∈ ["IV", "IX", "XL", "XC", "CD", "CM"]
  subtractedOnce : ∀ before left right : Symbol,
    [before.letter, left.letter, right.letter] <:+: written.toList →
      left.value < right.value → right.value ≤ before.value

theorem WrittenByRules.regular {numeral : Numeral} (hwritten : WrittenByRules numeral.text) :
    numeral.Regular := by
  constructor
  · rintro rfl
    exact hwritten.nonempty rfl
  · intro symbol hsingle
    have hcount := hwritten.single symbol (Symbol.isSingle_iff.mp hsingle)
    rwa [toList_text, count_map_letter] at hcount
  · intro symbol hrepeats hlong
    exact hwritten.shortRun symbol (Symbol.isRepeatable_iff.mp hrepeats) (infix_text_iff.mpr hlong)
  · intro symbol between hrepeats hsmaller hresumed
    exact hwritten.notResumed symbol (Symbol.isRepeatable_iff.mp hrepeats) between hsmaller 1 2
      (by decide) (by decide) (by decide) (infix_text_iff.mpr hresumed)
  · intro left right hpair hascends
    rw [Symbol.subtractsFrom_iff]
    exact hwritten.legalPair left right (infix_text_iff.mpr hpair) hascends
  · intro before left right htriple hascends
    exact hwritten.subtractedOnce before left right (infix_text_iff.mpr htriple) hascends

theorem Regular.writtenByRules {numeral : Numeral} (hregular : numeral.Regular) :
    WrittenByRules numeral.text := by
  constructor
  · intro hempty
    have hletters := toList_text numeral
    rw [hempty] at hletters
    exact hregular.nonempty (List.map_eq_nil_iff.mp hletters.symm)
  · intro c hc
    rw [toList_text, List.mem_map] at hc
    obtain ⟨symbol, _, rfl⟩ := hc
    exact Symbol.mem_letters_iff.mpr ⟨symbol, rfl⟩
  · intro symbol hsingle
    rw [toList_text, count_map_letter]
    exact hregular.single symbol (Symbol.isSingle_iff.mpr hsingle)
  · intro symbol hrepeats hlong
    exact hregular.shortRun symbol (Symbol.isRepeatable_iff.mpr hrepeats) (infix_text_iff.mp hlong)
  · intro symbol hrepeats between hsmaller early late hearly _ hlate hresumed
    refine hregular.notResumed symbol between (Symbol.isRepeatable_iff.mpr hrepeats) hsmaller ?_
    exact infix_text_iff.mp ((infix_of_resumed hearly hlate).trans hresumed)
  · intro left right hpair hascends
    rw [← Symbol.subtractsFrom_iff]
    exact hregular.legalPair left right (infix_text_iff.mp hpair) hascends
  · intro before left right htriple hascends
    exact hregular.subtractedOnce before left right (infix_text_iff.mp htriple) hascends

theorem WrittenByRules.exists_text {written : String} (hwritten : WrittenByRules written) :
    ∃ numeral : Numeral, written = numeral.text := by
  cases hread : ofText? written with
  | some numeral => exact ⟨numeral, ofText?_eq_some_iff.mp hread⟩
  | none =>
      obtain ⟨c, hc, hforeign⟩ := ofText?_eq_none_iff.mp hread
      obtain ⟨symbol, hsymbol⟩ := Symbol.mem_letters_iff.mp (hwritten.letters c hc)
      exact absurd hsymbol (hforeign symbol)

end Numeral

/-- A text is accepted exactly when it is written by the rules. -/
theorem isValidNumeral_iff_writtenByRules (written : String) :
    isValidNumeral written = true ↔ Numeral.WrittenByRules written := by
  unfold isValidNumeral
  rw [Option.any_eq_true]
  simp only [decide_eq_true_eq, Numeral.ofText?_eq_some_iff, Numeral.isValid_iff_regular]
  constructor
  · rintro ⟨numeral, rfl, hregular⟩
    exact hregular.writtenByRules
  · intro hwritten
    obtain ⟨numeral, rfl⟩ := hwritten.exists_text
    exact ⟨numeral, rfl, hwritten.regular⟩

end RomanTrade
