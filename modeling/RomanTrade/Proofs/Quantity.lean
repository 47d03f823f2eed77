import RomanTrade.Proofs.InterpreterRun
import RomanTrade.Proofs.NumeralTotal
import RomanTrade.Proofs.UnitPrice

/-!
# Quantities as words

The total of a valid numeral is positive, but it becomes a quantity of 32 bits only after the rest
modulo `2 ^ 32` is taken.  Below 4000 the quantity is the total and has a canonical spelling, and
prices that are shared among such quantities have denominators below 4000.
-/

namespace RomanTrade
namespace Numeral

theorem natCast_wordOfTotal (total : Int) : (wordOfTotal total : Int) = total % 2 ^ 32 := by
  unfold wordOfTotal
  omega

theorem wordOfTotal_of_lt {total : Int} (hpos : 0 ≤ total) (hlt : total < 2 ^ 32) :
    (wordOfTotal total : Int) = total := by
  rw [natCast_wordOfTotal]
  omega

theorem wordOfTotal_le {total : Int} (hpos : 0 ≤ total) : (wordOfTotal total : Int) ≤ total := by
  rw [natCast_wordOfTotal]
  omega

theorem wordOfTotal_eq_zero_iff {total : Int} : wordOfTotal total = 0 ↔ (2 ^ 32 : Int) ∣ total := by
  unfold wordOfTotal
  omega

theorem toDecimal_of_valid {numeral : Numeral} (hvalid : numeral.IsValid) :
    numeral.toDecimal = .ok (wordOfTotal numeral.total) := by
  unfold toDecimal
  rw [hvalid]

theorem toDecimal_eq_ok_iff {numeral : Numeral} {n : Nat} :
    numeral.toDecimal = .ok n ↔ numeral.IsValid ∧ wordOfTotal numeral.total = n := by
  unfold toDecimal IsValid
  cases numeral.violation? <;> simp

theorem exists_ofNat_iff {n : Nat} :
    (∃ canonical, ofNat n = .ok canonical) ↔ 1 ≤ n ∧ n ≤ 3999 := by
  have hlargest : largest = 3999 := rfl
  unfold ofNat
  split
  next hrange =>
    simp only [reduceCtorEq, exists_false, false_iff]
    omega
  next hrange =>
    simp only [Except.ok.injEq, exists_eq', true_iff]
    omega

theorem exists_canonical_iff {numeral : Numeral} (hvalid : numeral.IsValid) :
    (∃ value canonical, numeral.toDecimal = .ok value ∧ (value : Int) = numeral.total ∧
        ofNat value = .ok canonical) ↔ numeral.total ≤ 3999 := by
  have hpos := (isValid_iff_regular.mp hvalid).total_pos
  constructor
  · rintro ⟨value, canonical, _, htotal, hcanonical⟩
    have hrange := exists_ofNat_iff.mp ⟨canonical, hcanonical⟩
    omega
  · intro hsmall
    have htotal : (wordOfTotal numeral.total : Int) = numeral.total :=
      wordOfTotal_of_lt (by omega) (by omega)
    have hrange : 1 ≤ wordOfTotal numeral.total ∧ wordOfTotal numeral.total ≤ 3999 := by omega
    obtain ⟨canonical, hcanonical⟩ := exists_ofNat_iff.mpr hrange
    exact ⟨_, canonical, toDecimal_of_valid hvalid, htotal, hcanonical⟩

end Numeral

namespace Session

variable {session : Session} {amount : List String}

/-- No amount at all counts one unit; any other counts the value of its numeral. -/
theorem quantity_eq_resolved_iff {units : Nat} :
    session.quantity amount = .ok (.resolved units) ↔
      (amount = [] ∧ units = 1) ∨
      ((∀ word ∈ amount, session.prices.contains word = false) ∧
        ∃ numeral, session.alphabet.resolve amount = .resolved numeral ∧ numeral.IsValid ∧
          units = Numeral.wordOfTotal numeral.total) := by
  cases amount with
  | nil =>
      constructor
      · intro hcounted
        cases hcounted
        exact .inl ⟨rfl, rfl⟩
      · rintro (⟨_, rfl⟩ | ⟨_, numeral, hresolve, hvalid, _⟩)
        · rfl
        · cases hresolve
          cases hvalid
  | cons word rest =>
      have hquantity : session.quantity (word :: rest) = session.evaluate (word :: rest) := rfl
      rw [hquantity, evaluate_eq_resolved_iff, Alphabet.evaluate_eq_resolved_iff]
      simp

theorem den_le_of_counted {limit credits units : Nat} {price : Price} (hlimit : 1 ≤ limit)
    (hcounted : session.quantity amount = .ok (.resolved units))
    (hshared : Price.ofRatio? credits units = some price)
    (hsmall : ∀ numeral, session.alphabet.resolve amount = .resolved numeral →
      numeral.total ≤ limit) : price.credits.den ≤ limit := by
  have hunits := (Price.eq_of_ofRatio? hshared).1
  have hden := Nat.le_of_dvd (by omega) (Price.den_dvd_of_ofRatio? hshared)
  rcases quantity_eq_resolved_iff.mp hcounted with ⟨_, hone⟩ | ⟨_, numeral, hresolve, hvalid, hword⟩
  · omega
  · have hpos := (Numeral.isValid_iff_regular.mp hvalid).total_pos
    have hvalue := Numeral.wordOfTotal_le (Int.le_of_lt hpos)
    have htotal := hsmall numeral hresolve
    omega

def DenominatorsWithin (limit : Nat) (session : Session) : Prop :=
  ∀ material price, session.prices.get? material = some price → price.credits.den ≤ limit

theorem DenominatorsWithin.withPrice {limit : Nat} {price : Price}
    (hwithin : session.DenominatorsWithin limit) (material : String)
    (hden : price.credits.den ≤ limit) :
    (session.withPrice material price).DenominatorsWithin limit := by
  intro name other hother
  rw [get?_prices_withPrice] at hother
  split at hother
  next =>
    cases hother
    exact hden
  next => exact hwithin name other hother

end Session

namespace Interpreter

/-- The numeral that counts the units of a learned price fact. -/
def counted? (interpreter : Interpreter) (call : Call) : Option Numeral :=
  match (interpreter.perform call).1, call.statement? with
  | .replied (.learned _), some (.priceFact amount _ _) =>
    match interpreter.session.alphabet.resolve amount with
    | .resolved numeral => some numeral
    | .missing _ => none
  | _, _ => none

def counted (interpreter : Interpreter) (calls : List Call) : List Numeral :=
  interpreter.noted counted? calls

variable {limit : Nat}

theorem Step.denominatorsWithin {before after : Interpreter} {statement : Statement}
    {outcome : Outcome} (hstep : Step before statement outcome after) (hlimit : 1 ≤ limit)
    (hsmall : ∀ note amount material credits numeral, outcome = .replied (.learned note) →
      statement = .priceFact amount material credits →
        before.session.alphabet.resolve amount = .resolved numeral → numeral.total ≤ limit)
    (hwithin : before.session.DenominatorsWithin limit) :
    after.session.DenominatorsWithin limit := by
  cases hstep with
  | refuse | wait | answerValue | answerPrice | collapse | learnSymbol => exact hwithin
  | learnPrice _ hcounted hshared =>
      refine hwithin.withPrice _ (Session.den_le_of_counted hlimit hcounted hshared ?_)
      intro numeral hresolve
      exact hsmall _ _ _ _ numeral rfl rfl hresolve

theorem after_denominatorsWithin {interpreter : Interpreter} {calls : List Call}
    (hlimit : 1 ≤ limit) (hwithin : interpreter.session.DenominatorsWithin limit)
    (hsmall : ∀ numeral ∈ interpreter.counted calls, numeral.total ≤ limit) :
    (interpreter.after calls).session.DenominatorsWithin limit := by
  refine after_preserves_of_noted (fun current => current.session.DenominatorsWithin limit) ?_
    hwithin hsmall
  intro before call hcall hgood
  rcases before.perform_cases call with hsame | ⟨statement, hmade, hstep⟩
  · rw [hsame]
    exact hgood
  · refine hstep.denominatorsWithin hlimit ?_ hgood
    rintro note amount material credits numeral hlearned rfl hresolve
    refine hcall numeral ?_
    simp [counted?, hlearned, hmade, hresolve]

/-- The total of a valid numeral is positive, and it is the value and has a canonical spelling
exactly when it stays below 4000.  A run that shares Credits among such numerals only keeps all
denominators below 4000. -/
theorem values_and_denominators_below_four_thousand {numeral : Numeral} (hvalid : numeral.IsValid)
    (policy : UnitPricePolicy) (calls : List Call) :
    0 < numeral.total ∧
      ((∃ value canonical, numeral.toDecimal = .ok value ∧ (value : Int) = numeral.total ∧
        Numeral.ofNat value = .ok canonical) ↔ numeral.total ≤ 3999) ∧
      ((∀ counting ∈ ({ policy } : Interpreter).counted calls, counting.total ≤ 3999) →
        ∀ material price,
          (({ policy } : Interpreter).after calls).session.prices.get? material = some price →
            price.credits.den ≤ 3999) := by
  refine ⟨(Numeral.isValid_iff_regular.mp hvalid).total_pos,
    Numeral.exists_canonical_iff hvalid, ?_⟩
  intro hsmall
  have hfresh : Session.DenominatorsWithin 3999 {} := by
    intro material price hprice
    contradiction
  exact after_denominatorsWithin (by decide) hfresh hsmall

theorem long_numeral_counts_gold :
    (∃ value canonical,
        Numeral.toDecimal [.M, .M, .C, .D, .X, .X, .X, .I, .X, .I, .I, .I] = .ok value ∧
        (value : Int) = Numeral.total [.M, .M, .C, .D, .X, .X, .X, .I, .X, .I, .I, .I] ∧
        Numeral.ofNat value = .ok canonical) ∧
      ∃ price,
        (({} : Interpreter).after
          [.execute ["MMCDXXXIXIII", "Gold", "is", "5", "Credits"]]).session.prices.get? "Gold" =
            some price ∧ price.credits.den ≤ 3999 := by
  have hvalid : Numeral.IsValid [.M, .M, .C, .D, .X, .X, .X, .I, .X, .I, .I, .I] := by decide
  have hprice : (({} : Interpreter).after
      [.execute ["MMCDXXXIXIII", "Gold", "is", "5", "Credits"]]).session.prices.get? "Gold" =
        some ⟨Rat.divInt 5 2442⟩ := by decide
  obtain ⟨_, hcanonical, hdenominators⟩ :=
    values_and_denominators_below_four_thousand hvalid .allowFractional
      [.execute ["MMCDXXXIXIII", "Gold", "is", "5", "Credits"]]
  exact ⟨hcanonical.mpr (by decide), _, hprice, hdenominators (by decide) "Gold" _ hprice⟩

/-- The same pair again and again is accepted, so four thousand is, which cannot be written
canonically and becomes the denominator of a unit price. -/
theorem four_thousand_is_accepted :
    Numeral.IsValid [.M, .M, .M, .C, .M, .C] ∧
      Numeral.toDecimal [.M, .M, .M, .C, .M, .C] = .ok 4000 ∧
      Numeral.ofNat 4000 = .error (.numeralOutOfRange 4000) ∧
      ((({} : Interpreter).execute ["MMMCMC", "Gold", "is", "1", "Credits"]).2.session.prices.get?
        "Gold").map (fun price => price.credits.den) = some 4000 := by
  decide

end Interpreter
end RomanTrade
