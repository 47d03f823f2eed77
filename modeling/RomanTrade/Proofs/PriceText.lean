import Mathlib.Data.List.TakeWhile
import Mathlib.Tactic.Ring
import RomanTrade.Proofs.PriceDisplay

/-!
# Texts of prices

The text of a price is read back as the price: as an integer, as a decimal with no more digits than
it needs, or as a fraction.  So prices that differ are written differently.
-/

namespace RomanTrade
namespace Price

/-- The number that a nonempty row of decimal digits stands for. -/
def digits? (letters : List Char) : Option Nat :=
  if letters.isEmpty || !letters.all Char.isDigit then none
  else some (Nat.ofDigitChars 10 letters 0)

/-- What stands before the first `mark`, and what stands behind it if there is one. -/
def cutAt (mark : Char) (letters : List Char) : List Char × Option (List Char) :=
  match letters.dropWhile (· != mark) with
  | [] => (letters, none)
  | _ :: behind => (letters.takeWhile (· != mark), some behind)

/-- Reads digits, with or without a point and more digits behind it. -/
def unsignedDecimal? (letters : List Char) : Option Rat :=
  match cutAt '.' letters with
  | (whole, none) => do
    let whole ← digits? whole
    return whole
  | (whole, some part) => do
    let whole ← digits? whole
    let count ← digits? part
    return whole + count / 10 ^ part.length

def decimal? : List Char → Option Rat
  | '-' :: letters => do
    let size ← unsignedDecimal? letters
    return -size
  | letters => unsignedDecimal? letters

/-- Reads a decimal number, or one that is divided by a row of digits. -/
def ratio? (letters : List Char) : Option Rat :=
  match cutAt '/' letters with
  | (number, none) => decimal? number
  | (numer, some denom) => do
    let numer ← decimal? numer
    let denom ← digits? denom
    return numer / denom

/-- A decimal text that says exactly the ratio, with as many digits behind its point as it takes. -/
structure IsShortestDecimal (credits : Rat) (text : String) (part : List Char) : Prop where
  written : text = (if credits.num < 0 then "-" else "") ++
    toString (credits.num.natAbs / credits.den) ++ "." ++ String.ofList part
  digits : ∀ c ∈ part, c.isDigit = true
  least : IsLeast {enough | credits.den ∣ 10 ^ enough} part.length
  no_trailing_zero : part.getLast? ≠ some '0'
  read_back : decimal? text.toList = some credits

/-- The text is the one that the ratio is to have. -/
structure IsExactText (credits : Rat) (text : String) : Prop where
  whole : credits.den = 1 → text = toString credits.num
  terminating : credits.den ≠ 1 → OnlyTwosAndFives credits.den →
    ∃ part, IsShortestDecimal credits text part
  repeating : ¬ OnlyTwosAndFives credits.den →
    text = toString credits.num ++ "/" ++ toString credits.den

/-- The numerator fits in 64 bits, and a decimal takes at most 19 places. -/
structure IsPrintable (price : Price) : Prop where
  word : fitsWord price.credits.num = true
  few_places : ∀ places, IsLeast {enough | price.credits.den ∣ 10 ^ enough} places → places ≤ 19

theorem IsPrintable.displays {price : Price} (h : price.IsPrintable) :
    Displays price.credits price.text := by
  apply displays_text
  apply scalingFits_of_few_places h.word
  intro places hplaces
  exact h.few_places places (fewestPlaces?_eq_some_iff.mp hplaces)

section Digits

theorem digits?_eq_some {letters : List Char} (hne : letters ≠ [])
    (hdigits : ∀ c ∈ letters, c.isDigit = true) :
    digits? letters = some (Nat.ofDigitChars 10 letters 0) := by
  have hrow : (letters.isEmpty || !letters.all Char.isDigit) = false := by
    simpa [hne] using hdigits
  rw [digits?, hrow]
  rfl

theorem toList_toString (n : Nat) : (toString n).toList = Nat.toDigits 10 n :=
  Nat.toList_repr

theorem toList_paddedDigits (width n : Nat) :
    (paddedDigits width n).toList =
      List.replicate (width - (Nat.toDigits 10 n).length) '0' ++ Nat.toDigits 10 n :=
  String.toList_ofList

theorem isDigit_of_mem_toString {n : Nat} {c : Char} (hc : c ∈ (toString n).toList) :
    c.isDigit = true := by
  rw [toList_toString] at hc
  exact Nat.isDigit_of_mem_toDigits (by decide) (by decide) hc

theorem isDigit_of_mem_paddedDigits {width n : Nat} {c : Char}
    (hc : c ∈ (paddedDigits width n).toList) : c.isDigit = true := by
  rw [toList_paddedDigits, List.mem_append] at hc
  rcases hc with hzero | hdigit
  · rw [List.eq_of_mem_replicate hzero]
    decide
  · exact Nat.isDigit_of_mem_toDigits (by decide) (by decide) hdigit

theorem toList_toString_ne_nil (n : Nat) : (toString n).toList ≠ [] := by
  rw [toList_toString]
  exact Nat.toDigits_ne_nil

theorem digits?_toString (n : Nat) : digits? (toString n).toList = some n := by
  rw [digits?_eq_some (toList_toString_ne_nil n) fun c hc => isDigit_of_mem_toString hc,
    toList_toString, Nat.ofDigitChars_ten_toDigits]

theorem length_paddedDigits {width n : Nat} (hwidth : 0 < width) (hn : n < 10 ^ width) :
    (paddedDigits width n).toList.length = width := by
  have hlength : (Nat.toDigits 10 n).length ≤ width :=
    (Nat.length_toDigits_le_iff (by decide) hwidth).mpr hn
  rw [toList_paddedDigits, List.length_append, List.length_replicate]
  omega

theorem ofDigitChars_paddedDigits (width n : Nat) :
    Nat.ofDigitChars 10 (paddedDigits width n).toList 0 = n := by
  rw [toList_paddedDigits, Nat.ofDigitChars_append, Nat.ofDigitChars_replicate_zero,
    Nat.mul_zero, Nat.ofDigitChars_ten_toDigits]

theorem digits?_paddedDigits (width n : Nat) :
    digits? (paddedDigits width n).toList = some n := by
  have hne : (paddedDigits width n).toList ≠ [] := by
    rw [toList_paddedDigits]
    exact List.append_ne_nil_of_right_ne_nil _ Nat.toDigits_ne_nil
  rw [digits?_eq_some hne fun c hc => isDigit_of_mem_paddedDigits hc, ofDigitChars_paddedDigits]

theorem ten_dvd_of_getLast?_eq_zero {letters : List Char} (hlast : letters.getLast? = some '0') :
    10 ∣ Nat.ofDigitChars 10 letters 0 := by
  obtain ⟨front, rfl⟩ := List.getLast?_eq_some_iff.mp hlast
  rw [Nat.ofDigitChars_append, Nat.ofDigitChars_cons, Nat.ofDigitChars_nil]
  exact ⟨Nat.ofDigitChars 10 front 0, by simp⟩

end Digits

section Reading

variable {mark : Char} {front behind letters : List Char}

theorem cutAt_of_absent (habsent : mark ∉ letters) : cutAt mark letters = (letters, none) := by
  have hdrop : letters.dropWhile (· != mark) = [] := by
    rw [List.dropWhile_eq_nil_iff]
    intro c hc
    exact bne_iff_ne.mpr (ne_of_mem_of_not_mem hc habsent)
  rw [cutAt, hdrop]

theorem cutAt_append (habsent : mark ∉ front) :
    cutAt mark (front ++ mark :: behind) = (front, some behind) := by
  have hfront : ∀ c ∈ front, (c != mark) = true :=
    fun c hc => bne_iff_ne.mpr (ne_of_mem_of_not_mem hc habsent)
  have hdrop : (front ++ mark :: behind).dropWhile (· != mark) = mark :: behind := by
    rw [List.dropWhile_append_of_pos hfront]
    simp
  have htake : (front ++ mark :: behind).takeWhile (· != mark) = front := by
    rw [List.takeWhile_append_of_pos hfront]
    simp
  rw [cutAt, hdrop, htake]

theorem not_mem_of_digits (hdigits : ∀ c ∈ letters, c.isDigit = true)
    (hmark : mark.isDigit = false) : mark ∉ letters := by
  intro hmem
  rw [hdigits mark hmem] at hmark
  contradiction

theorem unsignedDecimal?_toString (n : Nat) :
    unsignedDecimal? (toString n).toList = some (n : Rat) := by
  have habsent : '.' ∉ (toString n).toList :=
    not_mem_of_digits (fun c hc => isDigit_of_mem_toString hc) (by decide)
  simp only [unsignedDecimal?, cutAt_of_absent habsent, digits?_toString]
  rfl

theorem unsignedDecimal?_point (whole : Nat) {part : List Char} {count : Nat}
    (hpart : digits? part = some count) :
    unsignedDecimal? ((toString whole).toList ++ '.' :: part) =
      some (whole + count / 10 ^ part.length : Rat) := by
  have habsent : '.' ∉ (toString whole).toList :=
    not_mem_of_digits (fun c hc => isDigit_of_mem_toString hc) (by decide)
  simp only [unsignedDecimal?, cutAt_append habsent, digits?_toString, hpart]
  rfl

theorem decimal?_of_unsigned (hhead : letters.head? ≠ some '-') :
    decimal? letters = unsignedDecimal? letters := by
  fun_cases decimal? letters with
  | case1 => contradiction
  | case2 => rfl

/-- The sign and the digits of a text are read apart. -/
theorem decimal?_signed {credits : Rat} (hhead : letters.head? ≠ some '-')
    (hsize : unsignedDecimal? letters = some |credits|) :
    decimal? ((if credits.num < 0 then "-" else "").toList ++ letters) = some credits := by
  by_cases hnegative : credits.num < 0
  · have hcredits : credits < 0 := Rat.num_neg.mp hnegative
    rw [if_pos hnegative]
    simp [decimal?, hsize, abs_of_neg hcredits]
  · have hcredits : 0 ≤ credits := Rat.num_nonneg.mp (Int.not_lt.mp hnegative)
    rw [if_neg hnegative, String.toList_empty, List.nil_append, decimal?_of_unsigned hhead, hsize,
      abs_of_nonneg hcredits]

theorem toString_eq_sign_append (n : Int) :
    toString n = (if n < 0 then "-" else "") ++ toString n.natAbs := by
  cases n with
  | ofNat n =>
      have hsign : ¬ (Int.ofNat n) < 0 := by simp
      rw [if_neg hsign, String.empty_append]
      rfl
  | negSucc n =>
      have hsign : Int.negSucc n < 0 := Int.negSucc_lt_zero n
      rw [if_pos hsign]
      rfl

theorem head?_ne_minus (whole : Nat) (letters : List Char) :
    ((toString whole).toList ++ letters).head? ≠ some '-' := by
  obtain ⟨first, rest, hletters⟩ := List.exists_cons_of_ne_nil (toList_toString_ne_nil whole)
  have hdigit : first.isDigit = true := by
    have hmem : first ∈ (toString whole).toList := hletters ▸ List.mem_cons_self
    exact isDigit_of_mem_toString hmem
  rw [hletters]
  intro hminus
  obtain rfl : first = '-' := by simpa using hminus
  exact absurd hdigit (by decide)

theorem decimal?_toString (n : Int) : decimal? (toString n).toList = some (n : Rat) := by
  have hsize : unsignedDecimal? (toString n.natAbs).toList = some |(n : Rat)| := by
    rw [unsignedDecimal?_toString, Nat.cast_natAbs, Int.cast_abs]
  have hhead : (toString n.natAbs).toList.head? ≠ some '-' := by
    simpa using head?_ne_minus n.natAbs []
  have hread := decimal?_signed hhead hsize
  rwa [Rat.num_intCast, ← String.toList_append, ← toString_eq_sign_append] at hread

end Reading

section Exactness

variable {credits : Rat} {text : String} {places whole part : Nat}

theorem scaled_eq_of_exact (hexact : |credits| = whole + part / 10 ^ places) :
    credits.num.natAbs * 10 ^ places = (whole * 10 ^ places + part) * credits.den := by
  have hden : (credits.den : Rat) ≠ 0 := Nat.cast_ne_zero.mpr credits.den_nz
  have hcast : (credits.num.natAbs * 10 ^ places : Rat) =
      (whole * 10 ^ places + part) * credits.den := by
    rw [abs_eq_natAbs_div, div_eq_iff hden] at hexact
    rw [hexact]
    field_simp
  exact_mod_cast hcast

theorem whole_eq_of_exact (hsmall : part < 10 ^ places)
    (hexact : |credits| = whole + part / 10 ^ places) :
    whole = credits.num.natAbs / credits.den := by
  have hscaled := scaled_eq_of_exact hexact
  have hpow : 0 < 10 ^ places := by positivity
  symm
  apply Nat.div_eq_of_lt_le
  · apply Nat.le_of_mul_le_mul_right (c := 10 ^ places) ?_ hpow
    calc
      whole * credits.den * 10 ^ places = whole * 10 ^ places * credits.den := by ring
      _ ≤ (whole * 10 ^ places + part) * credits.den :=
        Nat.mul_le_mul_right _ (Nat.le_add_right _ _)
      _ = credits.num.natAbs * 10 ^ places := hscaled.symm
  · apply Nat.lt_of_mul_lt_mul_right (a := 10 ^ places)
    calc
      credits.num.natAbs * 10 ^ places = (whole * 10 ^ places + part) * credits.den := hscaled
      _ < (whole * 10 ^ places + 10 ^ places) * credits.den :=
        Nat.mul_lt_mul_of_pos_right (Nat.add_lt_add_left hsmall _) credits.den_pos
      _ = (whole + 1) * credits.den * 10 ^ places := by ring

/-- With a zero at the end, one place less would do: numerator and denominator have no common
factor, so the denominator would divide the smaller power of ten. -/
theorem not_ten_dvd_of_least (hplaces : 0 < places)
    (hleast : IsLeast {enough | credits.den ∣ 10 ^ enough} places)
    (hexact : |credits| = whole + part / 10 ^ places) : ¬ 10 ∣ part := by
  rintro ⟨fewer, rfl⟩
  obtain ⟨before, rfl⟩ := Nat.exists_eq_add_one_of_ne_zero hplaces.ne'
  have hscaled := scaled_eq_of_exact hexact
  have hshorter : credits.num.natAbs * 10 ^ before =
      credits.den * (whole * 10 ^ before + fewer) := by
    refine Nat.eq_of_mul_eq_mul_right (Nat.succ_pos 9) ?_
    calc
      credits.num.natAbs * 10 ^ before * 10 = credits.num.natAbs * 10 ^ (before + 1) := by ring
      _ = (whole * 10 ^ (before + 1) + 10 * fewer) * credits.den := hscaled
      _ = credits.den * (whole * 10 ^ before + fewer) * 10 := by ring
  have hdvd : credits.den ∣ 10 ^ before :=
    Nat.Coprime.dvd_of_dvd_mul_left credits.reduced.symm ⟨_, hshorter⟩
  have henough := hleast.2 hdvd
  omega

theorem isShortestDecimal_of_exact (hfractional : credits.den ≠ 1)
    (hterminates : fewestPlaces? credits.den = some places) (hsmall : part < 10 ^ places)
    (hexact : |credits| = whole + part / 10 ^ places) :
    IsShortestDecimal credits
      ((if credits.num < 0 then "-" else "") ++ toString whole ++ "." ++ paddedDigits places part)
      (paddedDigits places part).toList := by
  have hleast := fewestPlaces?_eq_some_iff.mp hterminates
  have hplaces : 0 < places := by
    apply Nat.pos_of_ne_zero
    rintro rfl
    exact hfractional (Nat.dvd_one.mp hleast.1)
  have hlength := length_paddedDigits hplaces hsmall
  refine ⟨?_, fun c hc => isDigit_of_mem_paddedDigits hc, ?_, ?_, ?_⟩
  · rw [whole_eq_of_exact hsmall hexact, String.ofList_toList]
  · rwa [hlength]
  · intro hzero
    apply not_ten_dvd_of_least hplaces hleast hexact
    rw [← ofDigitChars_paddedDigits places part]
    exact ten_dvd_of_getLast?_eq_zero hzero
  · have hsize := unsignedDecimal?_point whole (digits?_paddedDigits places part)
    rw [hlength, ← hexact] at hsize
    have hread := decimal?_signed (head?_ne_minus _ _) hsize
    simpa using hread

theorem Displays.isExactText (h : Displays credits text) : IsExactText credits text := by
  cases h with
  | integer hwhole =>
      have honly := onlyTwosAndFives_of_dvd 0 hwhole.dvd
      exact ⟨fun _ => rfl, fun hne => absurd hwhole hne, absurd honly⟩
  | @decimal sign places whole part hfractional hterminates hsigned hsmall hexact =>
      have honly := onlyTwosAndFives_of_dvd places (dvd_of_fewestPlaces? hterminates)
      refine ⟨fun hwhole => absurd hwhole hfractional, fun _ _ => ?_, absurd honly⟩
      subst hsigned
      exact ⟨_, isShortestDecimal_of_exact hfractional hterminates hsmall hexact⟩
  | ratio hrepeats =>
      have hmore := fewestPlaces?_eq_none_iff.mp hrepeats
      refine ⟨fun hwhole => ?_, fun _ honly => absurd honly hmore, fun _ => rfl⟩
      exact absurd (onlyTwosAndFives_of_dvd 0 hwhole.dvd) hmore

theorem slash_not_mem_digits {letters : List Char} (hdigits : ∀ c ∈ letters, c.isDigit = true) :
    '/' ∉ letters :=
  not_mem_of_digits hdigits (by decide)

theorem slash_not_mem_signed (n : Int) {letters : List Char} (habsent : '/' ∉ letters) :
    '/' ∉ (if n < 0 then "-" else "").toList ++ letters := by
  rw [List.mem_append, not_or]
  refine ⟨?_, habsent⟩
  split <;> decide

theorem slash_not_mem_toString (n : Int) : '/' ∉ (toString n).toList := by
  rw [toString_eq_sign_append, String.toList_append]
  exact slash_not_mem_signed n (slash_not_mem_digits fun c hc => isDigit_of_mem_toString hc)

theorem IsShortestDecimal.slash_not_mem {part : List Char}
    (h : IsShortestDecimal credits text part) : '/' ∉ text.toList := by
  rw [h.written]
  simp only [String.toList_append, String.toList_ofList, List.append_assoc]
  apply slash_not_mem_signed
  rw [List.mem_append, List.mem_append, not_or, not_or]
  exact ⟨slash_not_mem_digits fun c hc => isDigit_of_mem_toString hc, by decide,
    slash_not_mem_digits h.digits⟩

/-- Only a fraction has a slash in its text, so the three forms are told apart. -/
theorem IsExactText.ratio?_eq (h : IsExactText credits text) :
    ratio? text.toList = some credits := by
  by_cases honly : OnlyTwosAndFives credits.den
  · by_cases hwhole : credits.den = 1
    · rw [h.whole hwhole, ratio?, cutAt_of_absent (slash_not_mem_toString _)]
      simp only [decimal?_toString]
      rw [Rat.coe_int_num_of_den_eq_one hwhole]
    · obtain ⟨part, hpart⟩ := h.terminating hwhole honly
      rw [ratio?, cutAt_of_absent hpart.slash_not_mem]
      exact hpart.read_back
  · have hletters : text.toList =
        (toString credits.num).toList ++ '/' :: (toString credits.den).toList := by
      rw [h.repeating honly]
      simp
    rw [hletters, ratio?, cutAt_append (slash_not_mem_toString _)]
    simp only [decimal?_toString, digits?_toString]
    exact congrArg some (Rat.num_div_den credits)

end Exactness

/-- A price is written as an integer if it is one, as the shortest decimal that says it if there is
one, and else as a fraction; the places of the decimal are the larger exponent of 2 and 5 in the
denominator, and prices with the same text are the same price. -/
theorem price_texts_exact_and_distinct :
    (∀ price : Price, price.IsPrintable → IsExactText price.credits price.text) ∧
      (∀ denom places, decimalPlaces? denom = some places ↔
        OnlyTwosAndFives denom ∧
          places = max (denom.factorization 2) (denom.factorization 5)) ∧
      ∀ left right : Price, left.IsPrintable → right.IsPrintable → left.text = right.text →
        left = right := by
  have hexact : ∀ price : Price, price.IsPrintable → IsExactText price.credits price.text :=
    fun price hprintable => hprintable.displays.isExactText
  refine ⟨hexact, fun denom places => decimalPlaces?_eq_some_iff, ?_⟩
  intro left right hleft hright htext
  have hread := (hexact left hleft).ratio?_eq
  rw [htext, (hexact right hright).ratio?_eq, Option.some.injEq] at hread
  cases left
  cases right
  exact congrArg Price.mk hread.symm

theorem three_eighths_are_written_exactly :
    (IsPrintable ⟨mkRat (-3) 8⟩ ∧ IsPrintable ⟨mkRat (-6) 16⟩ ∧
        text ⟨mkRat (-3) 8⟩ = "-0.375" ∧ text ⟨mkRat (-6) 16⟩ = "-0.375") ∧
      IsExactText (mkRat (-3) 8) "-0.375" ∧ (⟨mkRat (-3) 8⟩ : Price) = ⟨mkRat (-6) 16⟩ := by
  have hprintable : ∀ price : Price, price.credits.num = -3 → price.credits.den = 8 →
      price.IsPrintable := by
    intro price hnum hden
    refine ⟨by rw [hnum]; decide, fun places hleast => ?_⟩
    rw [hden] at hleast
    have henough : places ≤ 3 := hleast.2 (by decide : 8 ∣ 10 ^ 3)
    omega
  have hleft := hprintable ⟨mkRat (-3) 8⟩ rfl rfl
  have hright := hprintable ⟨mkRat (-6) 16⟩ rfl rfl
  have hleftText : text ⟨mkRat (-3) 8⟩ = "-0.375" := by decide +kernel
  have hrightText : text ⟨mkRat (-6) 16⟩ = "-0.375" := by decide +kernel
  obtain ⟨hexact, -, hdistinct⟩ := price_texts_exact_and_distinct
  refine ⟨⟨hleft, hright, hleftText, hrightText⟩, ?_, ?_⟩
  · rw [← hleftText]
    exact hexact _ hleft
  · exact hdistinct _ _ hleft hright (hleftText.trans hrightText.symm)

end Price
end RomanTrade
