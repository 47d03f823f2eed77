import Mathlib.Algebra.Order.Field.Rat
import Mathlib.Data.Rat.Lemmas
import Mathlib.Tactic.FieldSimp
import Mathlib.Tactic.Linarith
import RomanTrade.Proofs.DecimalPlaces

/-!
# What the text of a price says

A price is written as an integer, as a decimal with the least number of places, or as a fraction,
and the digits of the decimal are those of the exact ratio as long as the scaled numerator fits in
128 bits.  It always does for up to 19 places.
-/

namespace RomanTrade
namespace Price

/-- The text says exactly this ratio.  A decimal has as many places as it needs, and its digits
count whole Credits and the parts of one. -/
inductive Displays (credits : Rat) : String → Prop where
  | integer (whole : credits.den = 1) : Displays credits (toString credits.num)
  | decimal {sign : String} {places whole part : Nat} (fractional : credits.den ≠ 1)
      (terminates : fewestPlaces? credits.den = some places)
      (signed : sign = if credits.num < 0 then "-" else "") (small : part < 10 ^ places)
      (exact : |credits| = whole + part / 10 ^ places) :
      Displays credits s!"{sign}{whole}.{paddedDigits places part}"
  | ratio (repeats : fewestPlaces? credits.den = none) :
      Displays credits s!"{credits.num}/{credits.den}"

/-- The numerator over a power of ten stays within 128 bits. -/
def ScalingFits (price : Price) : Prop :=
  ∀ places, fewestPlaces? price.credits.den = some places →
    price.credits.num.natAbs * 10 ^ places < 2 ^ 127

theorem wideWord_of_lt {n : Nat} (h : n < 2 ^ 127) : wideWord n = n := by
  unfold wideWord
  exact Int.bmod_eq_of_le (by omega) (by omega)

theorem paddedInteger_natCast (width n : Nat) : paddedInteger width n = paddedDigits width n := by
  have hsign : ¬ (n : Int) < 0 := by omega
  unfold paddedInteger
  rw [if_neg hsign, Int.natAbs_natCast]

variable {price : Price}

theorem scalingFits_of_few_places (hword : fitsWord price.credits.num = true)
    (hfew : ∀ places, fewestPlaces? price.credits.den = some places → places ≤ 19) :
    price.ScalingFits := by
  intro places hplaces
  simp only [fitsWord, Bool.and_eq_true, decide_eq_true_eq] at hword
  have hnumer : price.credits.num.natAbs ≤ 2 ^ 63 := by omega
  have hscale : 10 ^ places ≤ 10 ^ 19 := Nat.pow_le_pow_right (by decide) (hfew places hplaces)
  calc
    price.credits.num.natAbs * 10 ^ places ≤ 2 ^ 63 * 10 ^ 19 := Nat.mul_le_mul hnumer hscale
    _ < 2 ^ 127 := by norm_num

theorem abs_eq_natAbs_div (credits : Rat) : |credits| = credits.num.natAbs / credits.den := by
  rw [Rat.abs_def, Rat.divInt_eq_div]
  simp

/-- Whole Credits and the parts of one, counted by the scaled numerator, make up the ratio. -/
theorem abs_eq_scaled {credits : Rat} {places : Nat} (hdvd : credits.den ∣ 10 ^ places) :
    let scaled := credits.num.natAbs * 10 ^ places / credits.den
    |credits| = (scaled / 10 ^ places : Nat) + (scaled % 10 ^ places : Nat) / 10 ^ places := by
  intro scaled
  have hden : (credits.den : Rat) ≠ 0 := Nat.cast_ne_zero.mpr credits.den_nz
  have hpow : (10 ^ places : Rat) ≠ 0 := by positivity
  have hscaled : scaled * credits.den = credits.num.natAbs * 10 ^ places :=
    Nat.div_mul_cancel (Dvd.dvd.mul_left hdvd _)
  have hsplit : scaled / 10 ^ places * 10 ^ places + scaled % 10 ^ places = scaled :=
    Nat.div_add_mod' scaled (10 ^ places)
  have hratio : |credits| * 10 ^ places = scaled := by
    rw [abs_eq_natAbs_div, div_mul_eq_mul_div, div_eq_iff hden]
    exact_mod_cast hscaled.symm
  have hsum : ((scaled / 10 ^ places : Nat) : Rat) * 10 ^ places +
      (scaled % 10 ^ places : Nat) = scaled := by
    exact_mod_cast hsplit
  rw [← mul_left_inj' hpow, hratio, add_mul, div_mul_cancel₀ _ hpow]
  exact hsum.symm

theorem displays_text (hfits : price.ScalingFits) : Displays price.credits price.text := by
  unfold text
  simp only [decimalPlaces?_eq_fewestPlaces?]
  split
  next hwhole => exact .integer hwhole
  next hfraction =>
    split
    next hrepeats => exact .ratio hrepeats
    next places hterminates =>
      have hdvd := dvd_of_fewestPlaces? hterminates
      have hwide := hfits places hterminates
      have hnumer : 0 < price.credits.num.natAbs := by
        apply Nat.pos_of_ne_zero
        intro hzero
        exact hfraction (by simpa [hzero] using price.credits.reduced)
      have hscale : wideWord (Nat.pow 10 places) = (10 ^ places : Nat) :=
        wideWord_of_lt (Nat.lt_of_le_of_lt (Nat.le_mul_of_pos_left _ hnumer) hwide)
      have hscaled : wideWord (price.credits.num.natAbs * (10 ^ places : Nat)) =
          (price.credits.num.natAbs * 10 ^ places : Nat) := by
        rw [← Int.natCast_mul]
        exact wideWord_of_lt hwide
      rw [hscale, hscaled, ← Int.ofNat_tdiv, ← Int.ofNat_tdiv, ← Int.ofNat_tmod,
        paddedInteger_natCast]
      exact .decimal hfraction hterminates rfl (Nat.mod_lt _ (by positivity)) (abs_eq_scaled hdvd)

end Price
end RomanTrade
