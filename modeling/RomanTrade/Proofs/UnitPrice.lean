import Mathlib.Data.Rat.Lemmas
import Mathlib.Tactic.Ring
import RomanTrade.Price

/-!
# Sharing Credits and multiplying again

A price that is shared among units keeps a denominator that divides their number.  Multiplying it
by the same number cancels the denominator before it multiplies, so the product is the number of
Credits that was shared, and no intermediate result is larger.
-/

namespace RomanTrade
namespace Price

variable {credits units : Nat} {price : Price}

theorem eq_of_ofRatio? (hshared : ofRatio? credits units = some price) :
    units ≠ 0 ∧ price.credits = Rat.divInt credits units := by
  unfold ofRatio? at hshared
  split at hshared
  next => contradiction
  next hunits =>
    cases hshared
    exact ⟨by simpa using hunits, rfl⟩

theorem den_dvd_of_ofRatio? (hshared : ofRatio? credits units = some price) :
    price.credits.den ∣ units := by
  obtain ⟨_, hprice⟩ := eq_of_ofRatio? hshared
  have hdvd := Rat.den_dvd credits units
  rw [← hprice] at hdvd
  exact Int.natCast_dvd_natCast.mp hdvd

theorem num_mul_eq_of_ofRatio? (hshared : ofRatio? credits units = some price) :
    price.credits.num * units = credits * price.credits.den := by
  obtain ⟨hunits, hprice⟩ := eq_of_ofRatio? hshared
  have hden : (price.credits.den : Int) ≠ 0 := Int.natCast_ne_zero.mpr price.credits.den_nz
  have hratio : Rat.divInt price.credits.num price.credits.den = Rat.divInt credits units := by
    rw [Rat.num_divInt_den, hprice]
  exact (Rat.divInt_eq_divInt_iff hden (Int.natCast_ne_zero.mpr hunits)).mp hratio

/-- The product is never larger than what was shared, so it fits whenever that did. -/
theorem times?_of_ofRatio? (hshared : ofRatio? credits units = some price)
    (hfits : fitsWord credits = true) : price.times? units = some ⟨credits⟩ := by
  have hden := price.credits.den_pos
  have hdvd := den_dvd_of_ofRatio? hshared
  have hshare : Nat.gcd price.credits.den units = price.credits.den := Nat.gcd_eq_left hdvd
  have hnumer : price.credits.num * (units / price.credits.den : Nat) = credits := by
    have hcross := num_mul_eq_of_ofRatio? hshared
    rw [← Nat.div_mul_cancel hdvd, Int.natCast_mul, ← Int.mul_assoc] at hcross
    exact Int.eq_of_mul_eq_mul_right (by omega) hcross
  unfold times?
  simp only [hshare, hnumer, hfits, if_true, Nat.div_self hden, Rat.mkRat_one]
  rfl

/-- With what the denominator and the number of units share cancelled, the product is reduced. -/
theorem product_of_cancelled {credits : Rat} {units shared rest count : Nat}
    (hshared : shared = Nat.gcd credits.den units) (hden : credits.den = shared * rest)
    (hunits : units = shared * count) :
    (credits * units).num = credits.num * count ∧
      mkRat (credits.num * count) rest = credits * units := by
  have hpos : 0 < shared := hshared ▸ Nat.gcd_pos_of_pos_left units credits.den_pos
  have hrest : 0 < rest := by
    apply Nat.pos_of_ne_zero
    rintro rfl
    exact credits.den_nz hden
  have hcoprime : (credits.num * count).natAbs.Coprime rest := by
    have hnum : credits.num.natAbs.Coprime rest :=
      credits.reduced.coprime_dvd_right (hden ▸ Nat.dvd_mul_left rest shared)
    have hcount : Nat.gcd rest count = 1 := by
      rw [hden, hunits, Nat.gcd_mul_left] at hshared
      exact Nat.eq_of_mul_eq_mul_left hpos (by omega)
    rw [Int.natAbs_mul, Int.natAbs_natCast]
    exact hnum.mul_left (Nat.Coprime.symm hcount)
  have hratio : ((credits.num * count : Int) : Rat) / (rest : Int) = credits * units := by
    have hvalue : credits * (shared * rest : Nat) = credits.num := by
      rw [← hden, Rat.mul_den_eq_num]
    have hne : ((rest : Int) : Rat) ≠ 0 := by exact_mod_cast hrest.ne'
    rw [div_eq_iff hne, hunits, Int.cast_mul, ← hvalue]
    push_cast
    ring
  constructor
  · rw [← hratio]
    exact Rat.num_div_eq_of_coprime (by exact_mod_cast hrest) hcoprime
  · rw [Rat.mkRat_eq_div]
    exact hratio

/-- The product is exact, and it is refused only when its own numerator does not fit. -/
theorem times?_eq (price : Price) (units : Nat) :
    price.times? units =
      if fitsWord (price.credits * units).num then some ⟨price.credits * units⟩ else none := by
  have hden := (Nat.mul_div_cancel' (Nat.gcd_dvd_left price.credits.den units)).symm
  have hunits := (Nat.mul_div_cancel' (Nat.gcd_dvd_right price.credits.den units)).symm
  obtain ⟨hnum, hproduct⟩ := product_of_cancelled rfl hden hunits
  unfold times?
  simp only [hnum, hproduct]

theorem text_of_whole (credits : Nat) : text ⟨credits⟩ = toString credits := rfl

end Price
end RomanTrade
