import Mathlib.Data.List.Forall2
import RomanTrade.Proofs.AmountResolution

/-!
# How an amount is read

An amount is read token by token, and what its tokens stand for is put in a row.  A token stands for
its symbol if it has one, and otherwise for the symbols that it spells.  So amounts can be read in
parts, and how the letters of undefined tokens are grouped makes no difference.
-/

namespace RomanTrade
namespace Alphabet

/-- A token can be read: it has been defined, or it is a nonempty text of symbol letters. -/
def Knows (alphabet : Alphabet) (token : String) : Prop :=
  alphabet.contains token = true ∨
    token ≠ "" ∧ ∀ c ∈ token.toList, ∃ symbol : Symbol, symbol.letter = c

/-- What a token stands for.  Its own symbol wins over the symbols that it spells. -/
inductive StandsFor (alphabet : Alphabet) : String → Numeral → Prop where
  | defined {token : String} {symbol : Symbol} (hsymbol : alphabet.get? token = some symbol) :
      StandsFor alphabet token [symbol]
  | literal {numeral : Numeral} (hundefined : alphabet.get? numeral.text = none)
      (hne : numeral ≠ []) : StandsFor alphabet numeral.text numeral

/-- The same letters cut into tokens in two ways, and none of these tokens has been defined. -/
structure Regrouped (alphabet : Alphabet) (tokens others : List String) : Prop where
  letters : tokens.flatMap String.toList = others.flatMap String.toList
  nonempty : ∀ token ∈ tokens ++ others, token ≠ ""
  undefined : ∀ token ∈ tokens ++ others, alphabet.get? token = none

variable {alphabet : Alphabet} {token : String} {tokens : List String} {numeral : Numeral}

theorem reading?_eq_none_iff_not_knows :
    alphabet.reading? token = none ↔ ¬ alphabet.Knows token := by
  rw [reading?_eq_none_iff, Knows, not_or, Bool.not_eq_true, not_and_or, not_not]
  simp only [not_forall, not_exists, exists_prop, ne_eq]

theorem reading?_eq_some_iff :
    alphabet.reading? token = some numeral ↔ alphabet.StandsFor token numeral := by
  unfold reading?
  constructor
  · intro h
    cases htoken : alphabet.get? token with
    | some symbol =>
        rw [htoken] at h
        obtain rfl := Option.some.inj h
        exact .defined htoken
    | none =>
        rw [htoken] at h
        obtain ⟨hspelled, hne⟩ := Option.filter_eq_some_iff.mp h
        obtain rfl := Numeral.ofText?_eq_some_iff.mp hspelled
        exact .literal htoken (by simpa using hne)
  · rintro (hsymbol | ⟨hundefined, hne⟩)
    · rw [hsymbol]
    · have hspelled : Numeral.ofText? numeral.text = some numeral :=
        Numeral.ofText?_eq_some_iff.mpr rfl
      rw [hundefined, hspelled]
      simpa using hne

theorem knows_iff_exists_standsFor :
    alphabet.Knows token ↔ ∃ symbols, alphabet.StandsFor token symbols := by
  simp only [← reading?_eq_some_iff]
  rw [← not_iff_not, ← reading?_eq_none_iff_not_knows, ← Option.ne_none_iff_exists', not_not]

theorem resolve_cons_eq_resolved_iff {rest : List String} :
    alphabet.resolve (token :: rest) = .resolved numeral ↔
      ∃ first others, alphabet.StandsFor token first ∧
        alphabet.resolve rest = .resolved others ∧ first ++ others = numeral := by
  simp only [← reading?_eq_some_iff, resolve]
  cases alphabet.reading? token with
  | none => simp
  | some first => cases alphabet.resolve rest <;> simp [Resolution.map]

theorem exists_resolved_iff :
    (∃ numeral, alphabet.resolve tokens = .resolved numeral) ↔
      ∀ token ∈ tokens, alphabet.Knows token := by
  induction tokens with
  | nil => simp [resolve]
  | cons token rest ih =>
      rw [List.forall_mem_cons, knows_iff_exists_standsFor, ← ih]
      simp only [resolve_cons_eq_resolved_iff]
      constructor
      · rintro ⟨_, first, others, hfirst, hothers, _⟩
        exact ⟨⟨first, hfirst⟩, others, hothers⟩
      · rintro ⟨⟨first, hfirst⟩, others, hothers⟩
        exact ⟨_, first, others, hfirst, hothers, rfl⟩

/-- What the tokens stand for is put in a row, in the order of the tokens. -/
theorem resolve_eq_resolved_iff :
    alphabet.resolve tokens = .resolved numeral ↔
      ∃ parts, List.Forall₂ alphabet.StandsFor tokens parts ∧ numeral = parts.flatten := by
  induction tokens generalizing numeral with
  | nil => simp [resolve, eq_comm]
  | cons token rest ih =>
      rw [resolve_cons_eq_resolved_iff]
      constructor
      · rintro ⟨first, others, hfirst, hothers, rfl⟩
        obtain ⟨parts, hparts, rfl⟩ := ih.mp hothers
        exact ⟨first :: parts, .cons hfirst hparts, rfl⟩
      · rintro ⟨_, hparts, rfl⟩
        cases hparts with
        | cons hfirst hrest => exact ⟨_, _, hfirst, ih.mpr ⟨_, hrest, rfl⟩, rfl⟩

theorem resolve_eq_missing_iff_append :
    alphabet.resolve tokens = .missing token ↔
      ∃ before behind, tokens = before ++ token :: behind ∧
        (∀ word ∈ before, alphabet.Knows word) ∧ ¬ alphabet.Knows token := by
  have hnone : ∀ word, (alphabet.reading? word).isNone = true ↔ ¬ alphabet.Knows word := by
    intro word
    rw [Option.isNone_iff_eq_none, reading?_eq_none_iff_not_knows]
  rw [resolve_eq_missing_iff, List.find?_eq_some_iff_append]
  simp only [Bool.not_eq_true', ← Bool.not_eq_true, hnone, not_not]
  constructor
  · rintro ⟨hunknown, before, behind, htokens, hbefore⟩
    exact ⟨before, behind, htokens, hbefore, hunknown⟩
  · rintro ⟨before, behind, htokens, hbefore, hunknown⟩
    exact ⟨hunknown, before, behind, htokens, hbefore⟩

theorem resolve_append (front back : List String) :
    alphabet.resolve (front ++ back) =
      match alphabet.resolve front with
      | .missing token => .missing token
      | .resolved symbols => (alphabet.resolve back).map (symbols ++ ·) := by
  induction front with
  | nil => cases h : alphabet.resolve back <;> simp [resolve, h, Resolution.map]
  | cons token rest ih =>
      rw [List.cons_append, resolve, resolve, ih]
      cases alphabet.reading? token with
      | none => rfl
      | some first =>
          cases alphabet.resolve rest with
          | missing other => rfl
          | resolved symbols => cases alphabet.resolve back <;> simp [Resolution.map]

theorem Knows.insert (hknown : alphabet.Knows token) (word : String) (symbol : Symbol) :
    Alphabet.Knows (Lexicon.insert alphabet word symbol) token := by
  rcases hknown with hdefined | hliteral
  · exact .inl ((Lexicon.contains_insert alphabet word symbol token).mpr (.inr hdefined))
  · exact .inr hliteral

theorem standsFor_iff_of_undefined (hundefined : alphabet.get? token = none) (hne : token ≠ "") :
    alphabet.StandsFor token numeral ↔ numeral.map Symbol.letter = token.toList := by
  constructor
  · intro hstands
    cases hstands with
    | defined hsymbol =>
        rw [hundefined] at hsymbol
        contradiction
    | literal => exact (Numeral.toList_text numeral).symm
  · intro hletters
    have hspelled : token = numeral.text := by
      rw [← String.toList_inj, Numeral.toList_text, hletters]
    subst hspelled
    refine .literal hundefined ?_
    rintro rfl
    exact hne rfl

/-- An amount of undefined tokens is the numeral with the letters of these tokens, one after the
other. -/
theorem resolve_iff_of_undefined (hundefined : ∀ token ∈ tokens, alphabet.get? token = none)
    (hne : ∀ token ∈ tokens, token ≠ "") :
    alphabet.resolve tokens = .resolved numeral ↔
      numeral.map Symbol.letter = tokens.flatMap String.toList := by
  induction tokens generalizing numeral with
  | nil => simp [resolve, eq_comm]
  | cons token rest ih =>
      obtain ⟨htoken, hrest⟩ := List.forall_mem_cons.mp hundefined
      obtain ⟨htokenNe, hrestNe⟩ := List.forall_mem_cons.mp hne
      rw [resolve_cons_eq_resolved_iff, List.flatMap_cons, List.map_eq_append_iff]
      simp only [standsFor_iff_of_undefined htoken htokenNe, ih hrest hrestNe]
      constructor
      · rintro ⟨first, others, hfirst, hothers, hnumeral⟩
        exact ⟨first, others, hnumeral.symm, hfirst, hothers⟩
      · rintro ⟨first, others, hnumeral, hfirst, hothers⟩
        exact ⟨first, others, hfirst, hothers, hnumeral.symm⟩

theorem Regrouped.resolve_iff {others : List String} (h : alphabet.Regrouped tokens others) :
    alphabet.resolve tokens = .resolved numeral ↔ alphabet.resolve others = .resolved numeral := by
  obtain ⟨htokens, hothers⟩ := List.forall_mem_append.mp h.undefined
  obtain ⟨htokensNe, hothersNe⟩ := List.forall_mem_append.mp h.nonempty
  rw [resolve_iff_of_undefined htokens htokensNe, resolve_iff_of_undefined hothers hothersNe,
    h.letters]

/-- Resolution reads an amount from left to right: it is the row of what the tokens stand for, or
stops at the first token that stands for nothing.  So an amount may be read in parts, a definition
takes no amount away, and undefined tokens may be grouped in any way. -/
theorem amounts_resolve_in_order (alphabet : Alphabet) :
    (∀ tokens, (∃ numeral, alphabet.resolve tokens = .resolved numeral) ↔
        ∀ token ∈ tokens, alphabet.Knows token) ∧
      (∀ tokens numeral, alphabet.resolve tokens = .resolved numeral ↔
        ∃ parts, List.Forall₂ alphabet.StandsFor tokens parts ∧ numeral = parts.flatten) ∧
      (∀ tokens token, alphabet.resolve tokens = .missing token ↔
        ∃ before behind, tokens = before ++ token :: behind ∧
          (∀ word ∈ before, alphabet.Knows word) ∧ ¬ alphabet.Knows token) ∧
      (∀ front back, alphabet.resolve (front ++ back) =
        match alphabet.resolve front with
        | .missing token => .missing token
        | .resolved symbols => (alphabet.resolve back).map (symbols ++ ·)) ∧
      (∀ tokens numeral word symbol, alphabet.resolve tokens = .resolved numeral →
        ∃ changed, Alphabet.resolve (Lexicon.insert alphabet word symbol) tokens =
          .resolved changed) ∧
      ∀ tokens others, alphabet.Regrouped tokens others →
        (∀ numeral, alphabet.resolve tokens = .resolved numeral ↔
          alphabet.resolve others = .resolved numeral) ∧
        ∀ value, alphabet.evaluate tokens = .ok (.resolved value) ↔
          alphabet.evaluate others = .ok (.resolved value) := by
  refine ⟨fun _ => exists_resolved_iff, fun _ _ => resolve_eq_resolved_iff,
    fun _ _ => resolve_eq_missing_iff_append, resolve_append, ?_, ?_⟩
  · intro tokens numeral word symbol hresolved
    have hknown := exists_resolved_iff.mp ⟨numeral, hresolved⟩
    exact exists_resolved_iff.mpr fun token htoken => (hknown token htoken).insert word symbol
  · intro tokens others hregrouped
    refine ⟨fun _ => hregrouped.resolve_iff, ?_⟩
    intro value
    simp only [evaluate_eq_resolved_iff, hregrouped.resolve_iff]

/-- `XIV` and `X IV` count the same, and `IV` is still read once it has a meaning of its own. -/
theorem fourteen_may_be_cut :
    let alphabet : Alphabet := Lexicon.empty.insert "glob" Symbol.I
    (alphabet.Regrouped ["XIV"] ["X", "IV"] ∧
        alphabet.resolve ["glob", "IV"] = .resolved [.I, .I, .V]) ∧
      alphabet.evaluate ["X", "IV"] = .ok (.resolved 14) ∧
      ∃ changed, Alphabet.resolve (Lexicon.insert alphabet "IV" .M) ["glob", "IV"] =
        .resolved changed := by
  intro alphabet
  have hregrouped : alphabet.Regrouped ["XIV"] ["X", "IV"] := by
    refine ⟨by decide, ?_, ?_⟩
    · simp
    · simp [alphabet, Lexicon.get?_insert]
  have hresolved : alphabet.resolve ["glob", "IV"] = .resolved [.I, .I, .V] := by decide
  have hwhole : alphabet.evaluate ["XIV"] = .ok (.resolved 14) := by decide
  obtain ⟨_, _, _, _, hdefine, hregroup⟩ := amounts_resolve_in_order alphabet
  refine ⟨⟨hregrouped, hresolved⟩, ?_, hdefine _ _ "IV" .M hresolved⟩
  exact ((hregroup _ _ hregrouped).2 14).mp hwhole

end Alphabet
end RomanTrade
