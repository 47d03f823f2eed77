import RomanTrade.Price
import RomanTrade.Proofs.WordSplitting

/-!
# Texts on one line

A text is a line if it has no line break: no line feed, no carriage return, and none of the other
characters at which Unicode ends a line.  Line breaks are blank, so words are lines, and so is what
is written from lines and numbers.
-/

namespace RomanTrade
namespace Text

/-- The characters that end a line, from the line feed to the paragraph separator. -/
def lineBreakRanges : CodePointRanges :=
  [(0x0A, 0x0D), (0x85, 0x85), (0x2028, 0x2029)]

def isLineBreak (c : Char) : Bool :=
  isWithin lineBreakRanges c

def IsLine (text : String) : Prop :=
  ∀ c ∈ text.toList, isLineBreak c = false

instance (text : String) : Decidable (IsLine text) :=
  decidable_of_iff (text.toList.all (fun c => !isLineBreak c) = true) (by simp [IsLine])

/-- Lines as they are written, each with the line feed that ends it. -/
def joinLines (lines : List String) : String :=
  String.join (lines.map (· ++ "\n"))

theorem joinLines_cons (first : String) (rest : List String) :
    joinLines (first :: rest) = first ++ "\n" ++ joinLines rest := by
  simp only [joinLines, List.map_cons, String.join_cons]

theorem not_isLineBreak_of_plain {c : Char} (h : isBlank c = false) : isLineBreak c = false := by
  simp only [isBlank, isLineBreak, isWithin, blankRanges, lineBreakRanges, List.any_cons,
    List.any_nil, Bool.or_false, Bool.or_eq_false_iff, Bool.and_eq_false_iff,
    decide_eq_false_iff_not] at h ⊢
  omega

theorem not_isLineBreak_of_isDigit {c : Char} (h : c.isDigit = true) : isLineBreak c = false := by
  simp only [Char.isDigit, Bool.and_eq_true, decide_eq_true_eq] at h
  have hlow : 48 ≤ c.toNat := h.1
  have hhigh : c.toNat ≤ 57 := h.2
  simp only [isLineBreak, isWithin, lineBreakRanges, List.any_cons, List.any_nil, Bool.or_false,
    Bool.or_eq_false_iff, Bool.and_eq_false_iff, decide_eq_false_iff_not]
  omega

theorem IsWord.isLine {word : String} (h : IsWord word) : IsLine word :=
  fun c hc => not_isLineBreak_of_plain (h.2 c hc)

namespace IsLine

variable {front back : String}

theorem append (hfront : IsLine front) (hback : IsLine back) : IsLine (front ++ back) := by
  intro c hc
  rw [String.toList_append, List.mem_append] at hc
  exact hc.elim (hfront c) (hback c)

theorem trim {text : String} (h : IsLine text) : IsLine (Text.trim text) := by
  intro c hc
  rw [toList_trim] at hc
  apply h c
  exact (List.dropWhile_sublist isBlank).subset ((List.rdropWhile_prefix isBlank _).subset hc)

theorem ofDigits {digits : List Char} (hdigits : ∀ c ∈ digits, c.isDigit = true) :
    IsLine (String.ofList digits) := by
  intro c hc
  rw [String.toList_ofList] at hc
  exact not_isLineBreak_of_isDigit (hdigits c hc)

theorem ofNat (n : Nat) : IsLine (toString n) := by
  apply ofDigits
  intro c hc
  exact Nat.isDigit_of_mem_toDigits (b := 10) (by decide) (by decide) hc

theorem ofInt (n : Int) : IsLine (toString n) := by
  cases n with
  | ofNat n => exact ofNat n
  | negSucc n => exact append (by decide) (ofNat (n + 1))

theorem joinWords {ws : List String} (hlines : ∀ word ∈ ws, IsLine word) :
    IsLine (joinWords ws) := by
  induction ws with
  | nil => decide
  | cons first rest ih =>
      rw [List.forall_mem_cons] at hlines
      cases rest with
      | nil =>
          have hjoin : Text.joinWords [first] = first := String.intercalate_singleton
          rw [hjoin]
          exact hlines.1
      | cons second rest =>
          rw [joinWords_cons_cons]
          exact (hlines.1.append (by decide)).append (ih hlines.2)

theorem joinWords_of_words {ws : List String} (hwords : ∀ word ∈ ws, IsWord word) :
    IsLine (Text.joinWords ws) :=
  .joinWords fun word hword => (hwords word hword).isLine

end IsLine
end Text

namespace Price

theorem isLine_paddedDigits (width n : Nat) : Text.IsLine (paddedDigits width n) := by
  apply Text.IsLine.ofDigits
  intro c hc
  rcases List.mem_append.mp hc with hzero | hdigit
  · rw [List.eq_of_mem_replicate hzero]
    decide
  · exact Nat.isDigit_of_mem_toDigits (b := 10) (by decide) (by decide) hdigit

theorem isLine_paddedInteger (width : Nat) (n : Int) : Text.IsLine (paddedInteger width n) := by
  unfold paddedInteger
  split
  · exact Text.IsLine.append (by decide) (isLine_paddedDigits _ _)
  · exact isLine_paddedDigits _ _

theorem isLine_text (price : Price) : Text.IsLine price.text := by
  unfold text
  simp only
  split
  next => exact .ofInt _
  next =>
    split
    next => exact ((Text.IsLine.ofInt _).append (by decide)).append (.ofNat _)
    next places _ =>
      have hsign : Text.IsLine (if price.credits.num < 0 then "-" else "") := by
        split
        · decide
        · decide
      exact ((hsign.append (.ofInt _)).append (by decide)).append (isLine_paddedInteger places _)

end Price
end RomanTrade
