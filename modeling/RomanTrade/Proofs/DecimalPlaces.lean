import Mathlib.Data.Nat.Factorization.Basic
import Mathlib.Order.Bounds.Basic
import RomanTrade.Price

/-!
# Decimal places

A fraction in lowest terms is a decimal exactly when its denominator has no prime factors but 2 and
5.  The factors 2 are divided out of the denominator first, the factors 5 out of what is left.  Each
loop counts the exponent of its factor, and the larger exponent is the least number of places that
is enough.
-/

namespace RomanTrade
namespace Price

def OnlyTwosAndFives (denom : Nat) : Prop :=
  ∀ factor : Nat, factor.Prime → factor ∣ denom → factor = 2 ∨ factor = 5

/-- The least number of decimal places that represents a fraction with this denominator.  The search
stops early: no more places are needed than the denominator has bits. -/
def fewestPlaces? (denom : Nat) : Option Nat :=
  (List.range (denom.log2 + 1)).find? fun places => Nat.pow 10 places % denom == 0

variable {denom places : Nat}

section Loops

variable {factor rest : Nat}

theorem stripFactor_of_dvd (hfactor : 1 < factor) (hpos : 0 < rest) (hdvd : factor ∣ rest)
    (count : Nat) :
    stripFactor factor rest count = stripFactor factor (rest / factor) (count + 1) := by
  rw [stripFactor, dif_pos ⟨Nat.mod_eq_zero_of_dvd hdvd, hfactor, hpos⟩]

theorem stripFactor_of_not_dvd (hdvd : ¬ factor ∣ rest) (count : Nat) :
    stripFactor factor rest count = (rest, count) := by
  rw [stripFactor, dif_neg fun h => hdvd (Nat.dvd_of_mod_eq_zero h.1)]

/-- A loop takes its factor out of the number altogether, and the count goes up by the exponent. -/
theorem stripFactor_eq (hprime : factor.Prime) (hne : rest ≠ 0) (count : Nat) :
    stripFactor factor rest count =
      (rest / factor ^ rest.factorization factor, count + rest.factorization factor) := by
  induction rest using Nat.strong_induction_on generalizing count with
  | h rest ih =>
      by_cases hdvd : factor ∣ rest
      · have hpos := Nat.pos_of_ne_zero hne
        have hless : rest / factor < rest := Nat.div_lt_self hpos hprime.one_lt
        have hleft : rest / factor ≠ 0 :=
          (Nat.div_pos (Nat.le_of_dvd hpos hdvd) hprime.pos).ne'
        have hexponent : (rest / factor).factorization factor + 1 =
            rest.factorization factor := by
          have hone := hprime.factorization_pos_of_dvd hne hdvd
          rw [Nat.factorization_div hdvd, Finsupp.tsub_apply, hprime.factorization_self]
          omega
        rw [stripFactor_of_dvd hprime.one_lt hpos hdvd, ih _ hless hleft,
          Nat.ordCompl_div_of_dvd hprime hdvd, ← hexponent, Nat.add_assoc, Nat.add_comm 1]
      · rw [stripFactor_of_not_dvd hdvd, Nat.factorization_eq_zero_of_not_dvd hdvd, pow_zero,
          Nat.div_one, Nat.add_zero]

end Loops

section Exponents

theorem onlyTwosAndFives_of_dvd (places : Nat) (hdvd : denom ∣ 10 ^ places) :
    OnlyTwosAndFives denom := by
  intro factor hprime hfactor
  have hten : factor ∣ 2 * 5 := hprime.dvd_of_dvd_pow (hfactor.trans hdvd)
  rcases hprime.dvd_mul.mp hten with htwo | hfive
  · exact .inl ((Nat.prime_dvd_prime_iff_eq hprime Nat.prime_two).mp htwo)
  · exact .inr ((Nat.prime_dvd_prime_iff_eq hprime Nat.prime_five).mp hfive)

theorem OnlyTwosAndFives.ne_zero (honly : OnlyTwosAndFives denom) : denom ≠ 0 := by
  rintro rfl
  have hthree := honly 3 Nat.prime_three (dvd_zero 3)
  omega

/-- What is left of a denominator without its factors 2 and 5. -/
def leftOver (denom : Nat) : Nat :=
  denom / 2 ^ denom.factorization 2 / 5 ^ denom.factorization 5

theorem factorization_five_without_twos :
    (denom / 2 ^ denom.factorization 2).factorization 5 = denom.factorization 5 := by
  rw [Nat.factorization_ordCompl, Finsupp.erase_ne (by decide)]

theorem mul_leftOver (denom : Nat) :
    2 ^ denom.factorization 2 * (5 ^ denom.factorization 5 * leftOver denom) = denom := by
  have hfives := Nat.ordProj_mul_ordCompl_eq_self (denom / 2 ^ denom.factorization 2) 5
  rw [factorization_five_without_twos] at hfives
  rw [leftOver, hfives]
  exact Nat.ordProj_mul_ordCompl_eq_self denom 2

theorem not_dvd_leftOver (hne : denom ≠ 0) : ¬ 2 ∣ leftOver denom ∧ ¬ 5 ∣ leftOver denom := by
  have hodd := Nat.not_dvd_ordCompl Nat.prime_two hne
  have hoddNe : denom / 2 ^ denom.factorization 2 ≠ 0 := (Nat.ordCompl_pos 2 hne).ne'
  have hrestDvd := Nat.ordCompl_dvd (denom / 2 ^ denom.factorization 2) 5
  have hrest := Nat.not_dvd_ordCompl Nat.prime_five hoddNe
  rw [factorization_five_without_twos] at hrest hrestDvd
  exact ⟨fun htwo => hodd (htwo.trans hrestDvd), hrest⟩

theorem eq_mul_of_leftOver (hone : leftOver denom = 1) :
    denom = 2 ^ denom.factorization 2 * 5 ^ denom.factorization 5 := by
  have hdenom := mul_leftOver denom
  rw [hone, Nat.mul_one] at hdenom
  exact hdenom.symm

theorem dvd_ten_pow_max (hone : leftOver denom = 1) :
    denom ∣ 10 ^ max (denom.factorization 2) (denom.factorization 5) := by
  rw [show 10 = 2 * 5 by rfl, Nat.mul_pow]
  nth_rewrite 1 [eq_mul_of_leftOver hone]
  exact mul_dvd_mul (pow_dvd_pow 2 (le_max_left _ _)) (pow_dvd_pow 5 (le_max_right _ _))

/-- Nothing but 1 has no prime factor. -/
theorem leftOver_eq_one_iff (hne : denom ≠ 0) :
    leftOver denom = 1 ↔ OnlyTwosAndFives denom := by
  constructor
  · intro hone
    exact onlyTwosAndFives_of_dvd _ (dvd_ten_pow_max hone)
  · intro honly
    rw [Nat.eq_one_iff_not_exists_prime_dvd]
    intro factor hprime hdvd
    have hdenom : leftOver denom ∣ denom :=
      Dvd.intro_left _ ((Nat.mul_assoc _ _ _).trans (mul_leftOver denom))
    rcases honly factor hprime (hdvd.trans hdenom) with rfl | rfl
    · exact (not_dvd_leftOver hne).1 hdvd
    · exact (not_dvd_leftOver hne).2 hdvd

theorem exponent_le {factor other exponent : Nat} (hfactor : 1 < factor)
    (hcoprime : factor.Coprime other)
    (hdvd : factor ^ exponent ∣ factor ^ places * other ^ places) : exponent ≤ places := by
  have hpow : (factor ^ exponent).Coprime (other ^ places) := hcoprime.pow _ _
  exact (Nat.pow_dvd_pow_iff_le_right hfactor).mp (hpow.dvd_of_dvd_mul_right hdvd)

/-- The larger exponent is enough, and no fewer places are. -/
theorem OnlyTwosAndFives.isLeast_max (honly : OnlyTwosAndFives denom) :
    IsLeast {enough | denom ∣ 10 ^ enough}
      (max (denom.factorization 2) (denom.factorization 5)) := by
  refine ⟨dvd_ten_pow_max ((leftOver_eq_one_iff honly.ne_zero).mpr honly), ?_⟩
  intro enough henough
  have htwos := (Nat.ordProj_dvd denom 2).trans henough
  have hfives := (Nat.ordProj_dvd denom 5).trans henough
  apply max_le
  · apply exponent_le (by decide) (by decide : Nat.Coprime 2 5)
    rwa [← Nat.mul_pow]
  · apply exponent_le (by decide) (by decide : Nat.Coprime 5 2)
    rwa [← Nat.mul_pow]

/-- The denominator has at least as many bits as places. -/
theorem OnlyTwosAndFives.max_le_log2 (honly : OnlyTwosAndFives denom) :
    max (denom.factorization 2) (denom.factorization 5) ≤ denom.log2 := by
  have hne := honly.ne_zero
  apply max_le
  · rw [Nat.le_log2 hne]
    exact Nat.ordProj_le 2 hne
  · rw [Nat.le_log2 hne]
    calc
      2 ^ denom.factorization 5 ≤ 5 ^ denom.factorization 5 := Nat.pow_le_pow_left (by decide) _
      _ ≤ denom := Nat.ordProj_le 5 hne

end Exponents

theorem fewestPlaces?_eq_some_iff :
    fewestPlaces? denom = some places ↔ IsLeast {enough | denom ∣ 10 ^ enough} places := by
  unfold fewestPlaces?
  rw [List.find?_range_eq_some]
  simp only [Nat.pow_eq, beq_iff_eq, List.mem_range, Bool.not_eq_true', beq_eq_false_iff_ne,
    ← Nat.dvd_iff_mod_eq_zero]
  constructor
  · rintro ⟨hdvd, _, hfewer⟩
    refine ⟨hdvd, fun enough henough => ?_⟩
    by_contra hlt
    exact hfewer enough (Nat.lt_of_not_le hlt) (Nat.mod_eq_zero_of_dvd henough)
  · intro hleast
    have honly := onlyTwosAndFives_of_dvd places hleast.1
    have hbits : places ≤ denom.log2 := hleast.unique honly.isLeast_max ▸ honly.max_le_log2
    refine ⟨hleast.1, Nat.lt_succ_of_le hbits, fun fewer hlt hdvd => ?_⟩
    exact absurd (hleast.2 (Nat.dvd_of_mod_eq_zero hdvd)) (Nat.not_le_of_lt hlt)

theorem dvd_of_fewestPlaces? (h : fewestPlaces? denom = some places) : denom ∣ 10 ^ places :=
  (fewestPlaces?_eq_some_iff.mp h).1

theorem fewestPlaces?_eq_none_iff : fewestPlaces? denom = none ↔ ¬ OnlyTwosAndFives denom := by
  constructor
  · intro hnone honly
    rw [fewestPlaces?_eq_some_iff.mpr honly.isLeast_max] at hnone
    contradiction
  · intro hmore
    cases hplaces : fewestPlaces? denom with
    | none => rfl
    | some places =>
        exact absurd (onlyTwosAndFives_of_dvd places (dvd_of_fewestPlaces? hplaces)) hmore

/-- The first loop counts the factors 2, the second one the factors 5. -/
theorem decimalPlaces?_eq (hne : denom ≠ 0) :
    decimalPlaces? denom =
      if leftOver denom = 1 then some (max (denom.factorization 2) (denom.factorization 5))
      else none := by
  have hodd : denom / 2 ^ denom.factorization 2 ≠ 0 := (Nat.ordCompl_pos 2 hne).ne'
  unfold decimalPlaces? leftOver
  rw [stripFactor_eq Nat.prime_two hne, Nat.zero_add]
  simp only
  rw [stripFactor_eq Nat.prime_five hodd, Nat.zero_add, factorization_five_without_twos]

theorem decimalPlaces?_of_onlyTwosAndFives (honly : OnlyTwosAndFives denom) :
    decimalPlaces? denom = some (max (denom.factorization 2) (denom.factorization 5)) := by
  rw [decimalPlaces?_eq honly.ne_zero, if_pos ((leftOver_eq_one_iff honly.ne_zero).mpr honly)]

theorem decimalPlaces?_of_not_onlyTwosAndFives (hmore : ¬ OnlyTwosAndFives denom) :
    decimalPlaces? denom = none := by
  by_cases hzero : denom = 0
  · rw [hzero]
    decide +kernel
  · rw [decimalPlaces?_eq hzero, if_neg (mt (leftOver_eq_one_iff hzero).mp hmore)]

theorem decimalPlaces?_eq_some_iff :
    decimalPlaces? denom = some places ↔
      OnlyTwosAndFives denom ∧ places = max (denom.factorization 2) (denom.factorization 5) := by
  by_cases honly : OnlyTwosAndFives denom
  · simp [decimalPlaces?_of_onlyTwosAndFives, honly, eq_comm]
  · simp [decimalPlaces?_of_not_onlyTwosAndFives, honly]

/-- The loops find what the search finds. -/
theorem decimalPlaces?_eq_fewestPlaces? (denom : Nat) :
    decimalPlaces? denom = fewestPlaces? denom := by
  by_cases honly : OnlyTwosAndFives denom
  · rw [decimalPlaces?_of_onlyTwosAndFives honly, fewestPlaces?_eq_some_iff.mpr honly.isLeast_max]
  · rw [decimalPlaces?_of_not_onlyTwosAndFives honly, fewestPlaces?_eq_none_iff.mpr honly]

end Price
end RomanTrade
