import RomanTrade.Json.Reader

/-!
# Escaped texts

A text that is written with escapes is read back as it was, and nothing behind its closing quote is
touched.  The machine that reads a string is back in its plain state after each escape.
-/

namespace RomanTrade
namespace Json

/-- What was read, with a character in front of it if there is one. -/
def inFront (character : Option Char) (read : Except Problem (List Char × List Char)) :
    Except Problem (List Char × List Char) :=
  read.map fun (text, after) => (character.toList ++ text, after)

theorem inFront_none (read : Except Problem (List Char × List Char)) :
    inFront none read = read := by
  cases read with
  | error problem => rfl
  | ok read => rfl

variable {state next : TextState} {c letter : Char} {character : Option Char}

theorem readText_cons {rest : List Char} (hopen : ¬ (state = .plain ∧ c = '\x22'))
    (hstep : textStep .kept state c rest = .ok (next, character)) :
    readText .kept state (c :: rest) = inFront character (readText .kept next rest) := by
  rw [readText, if_neg hopen]
  simp only [hstep]
  cases readText .kept next rest with
  | error problem => rfl
  | ok read => rfl

/-- A step that completes no character only moves the machine on. -/
theorem readText_cons_silent {rest : List Char} (hopen : ¬ (state = .plain ∧ c = '\x22'))
    (hstep : textStep .kept state c rest = .ok (next, none)) :
    readText .kept state (c :: rest) = readText .kept next rest := by
  rw [readText_cons hopen hstep, inFront_none]

theorem readText_backslash (rest : List Char) :
    readText .kept .plain ('\x5c' :: rest) = readText .kept .escape rest :=
  readText_cons_silent (by decide) rfl

theorem readText_shortEscape (hshort : shortEscape? letter = some c) (rest : List Char) :
    readText .kept .plain ('\x5c' :: letter :: rest) =
      inFront (some c) (readText .kept .plain rest) := by
  have hother : letter ≠ 'u' := by
    rintro rfl
    contradiction
  rw [readText_backslash]
  apply readText_cons (by simp)
  simp only [textStep, if_neg hother, hshort]

theorem hexDigit?_digitChar {n : Nat} (h : n < 16) : hexDigit? (Nat.digitChar n) = some n := by
  revert n
  decide

theorem readText_hexDigit {left value digit : Nat} (hdigit : digit < 16) (rest : List Char) :
    readText .kept (.hex none (left + 2) value) (Nat.digitChar digit :: rest) =
      readText .kept (.hex none (left + 1) (16 * value + digit)) rest := by
  apply readText_cons_silent (by simp)
  simp [textStep, hexDigit?_digitChar hdigit]

theorem readText_lastHexDigit {value digit : Nat} (hdigit : digit < 16)
    (hplain : 16 * value + digit < 0xD800) (rest : List Char) :
    readText .kept (.hex none 1 value) (Nat.digitChar digit :: rest) =
      inFront (some (Char.ofNat (16 * value + digit))) (readText .kept .plain rest) := by
  have hlow : isLowSurrogate (16 * value + digit) = false := by
    simp only [isLowSurrogate, Bool.and_eq_false_iff, decide_eq_false_iff_not]
    omega
  have hhigh : isHighSurrogate (16 * value + digit) = false := by
    simp only [isHighSurrogate, Bool.and_eq_false_iff, decide_eq_false_iff_not]
    omega
  apply readText_cons (by simp)
  simp [textStep, hexDigit?_digitChar hdigit, finishEscape, hlow, hhigh]

/-- A control character is written by its two last hexadecimal digits. -/
theorem readText_codePoint (hcontrol : c.toNat < 0x20) (rest : List Char) :
    readText .kept .plain (['\x5c', 'u', '0', '0'] ++ hexPair c.toNat ++ rest) =
      inFront (some c) (readText .kept .plain rest) := by
  have hstart : readText .kept .plain (['\x5c', 'u', '0', '0'] ++ hexPair c.toNat ++ rest) =
      readText .kept (.hex none 4 0)
        (Nat.digitChar 0 :: Nat.digitChar 0 :: (hexPair c.toNat ++ rest)) := by
    rw [List.append_assoc]
    exact (readText_backslash _).trans (readText_cons_silent (by simp) rfl)
  have hvalue : 16 * (c.toNat / 16) + c.toNat % 16 = c.toNat := Nat.div_add_mod _ _
  rw [hstart, readText_hexDigit (by decide), readText_hexDigit (by decide)]
  simp only [hexPair, List.cons_append, List.nil_append]
  rw [readText_hexDigit (by omega), readText_lastHexDigit (by omega) (by omega)]
  simp [hvalue, Char.ofNat_toNat]

theorem readText_escapedChar (c : Char) (rest : List Char) :
    readText .kept .plain (escapedChar c ++ rest) =
      inFront (some c) (readText .kept .plain rest) := by
  unfold escapedChar
  split
  next hquoted =>
    apply readText_shortEscape
    rcases hquoted with rfl | rfl
    · rfl
    · rfl
  next hquoted =>
    iterate 5
      split
      next hshort =>
        subst hshort
        exact readText_shortEscape rfl rest
    split
    next hcontrol => exact readText_codePoint hcontrol rest
    next hprinted =>
      rw [not_or] at hquoted
      apply readText_cons (by simp [hquoted.1])
      simp [textStep, hquoted.2, hprinted]

theorem readText_escaped (text rest : List Char) :
    readText .kept .plain (text.flatMap escapedChar ++ '\x22' :: rest) = .ok (text, rest) := by
  induction text with
  | nil => rfl
  | cons c more ih =>
      rw [List.flatMap_cons, List.append_assoc, readText_escapedChar, ih]
      rfl

/-- A text that has been written is read from behind its opening quote. -/
theorem toList_escaped (text : String) :
    (escaped text).toList = '\x22' :: (text.toList.flatMap escapedChar ++ ['\x22']) :=
  String.toList_ofList

theorem readString_escaped (text : String) (rest : List Char) :
    readString (text.toList.flatMap escapedChar ++ '\x22' :: rest) = .ok (text, rest) := by
  unfold readString
  simp only [readText_escaped, String.ofList_toList]

end Json
end RomanTrade
