import RomanTrade.Proofs.InterpreterRun

/-!
# The session invariant

The two tables of a session never share a name, neither holds a keyword, materials are capitalized
and prices are ratios of nonnegative numbers.  No call takes a name out of its table, so a name
keeps its role for the rest of the session.
-/

namespace RomanTrade

theorem Keyword.isReserved_of_sameIgnoringCase {name : String}
    (h : Text.sameIgnoringCase name Keyword.how.text = true) : Keyword.isReserved name = true := by
  have haccepts : Keyword.how.accepts name = true := h
  exact isReserved_of_accepts haccepts

theorem Price.nonneg_of_ofRatio? {credits units : Nat} {price : Price}
    (h : Price.ofRatio? credits units = some price) : 0 ≤ price.credits.num := by
  unfold Price.ofRatio? at h
  split at h
  next => contradiction
  next =>
    cases h
    rw [Rat.num_nonneg]
    exact Rat.divInt_nonneg (Int.natCast_nonneg credits) (Int.natCast_nonneg units)

namespace Session

/-- The names and prices that the tables of a session may hold. -/
structure Consistent (session : Session) : Prop where
  apart : ∀ name, session.alphabet.contains name = true → session.prices.contains name = false
  plainToken : ∀ name, session.alphabet.contains name = true → Keyword.isReserved name = false
  plainMaterial : ∀ name, session.prices.contains name = true → Keyword.isReserved name = false
  capitalized : ∀ name, session.prices.contains name = true → Text.isCapitalized name = true
  reduced : ∀ name price, session.prices.get? name = some price →
    0 ≤ price.credits.num ∧ 0 < price.credits.den ∧
      Nat.Coprime price.credits.num.natAbs price.credits.den

theorem consistent_empty : Consistent {} := by
  constructor
  · intro name h
    contradiction
  · intro name h
    contradiction
  · intro name h
    contradiction
  · intro name h
    contradiction
  · intro name price h
    contradiction

variable {session : Session}

theorem Consistent.tokenless_of_material (hgood : session.Consistent) {name : String}
    (hmaterial : session.prices.contains name = true) :
    session.alphabet.contains name = false := by
  apply Bool.eq_false_iff.mpr
  intro htoken
  rw [hgood.apart name htoken] at hmaterial
  contradiction

theorem Consistent.absent_of_reserved (hgood : session.Consistent) {name : String}
    (hreserved : Keyword.isReserved name = true) :
    session.alphabet.contains name = false ∧ session.prices.contains name = false := by
  constructor
  · apply Bool.eq_false_iff.mpr
    intro htoken
    rw [hgood.plainToken name htoken] at hreserved
    contradiction
  · apply Bool.eq_false_iff.mpr
    intro hmaterial
    rw [hgood.plainMaterial name hmaterial] at hreserved
    contradiction

theorem Consistent.withSymbol (hgood : session.Consistent) (definition : Definition)
    (hplain : Keyword.isReserved definition.token = false)
    (hunpriced : session.prices.contains definition.token = false) :
    (session.withSymbol definition).Consistent := by
  have htoken : ∀ name, (session.withSymbol definition).alphabet.contains name = true →
      name = definition.token ∨ session.alphabet.contains name = true :=
    fun name h => (Lexicon.contains_insert _ _ _ _).mp h
  constructor
  · intro name h
    rcases htoken name h with rfl | hold
    · exact hunpriced
    · exact hgood.apart name hold
  · intro name h
    rcases htoken name h with rfl | hold
    · exact hplain
    · exact hgood.plainToken name hold
  · exact hgood.plainMaterial
  · exact hgood.capitalized
  · exact hgood.reduced

theorem Consistent.withPrice (hgood : session.Consistent) {material : String} {price : Price}
    (hnamed : session.isMaterialName material = true) (hprice : 0 ≤ price.credits.num) :
    (session.withPrice material price).Consistent := by
  simp only [isMaterialName, Bool.and_eq_true, Bool.not_eq_true'] at hnamed
  obtain ⟨⟨hcapital, hplain⟩, hfree⟩ := hnamed
  have hmaterial : ∀ name, (session.withPrice material price).prices.contains name = true →
      name = material ∨ session.prices.contains name = true :=
    fun name h => (Lexicon.contains_insert _ _ _ _).mp h
  constructor
  · intro name h
    have hold : session.alphabet.contains name = true := h
    apply Bool.eq_false_iff.mpr
    intro hpriced
    rcases hmaterial name hpriced with rfl | hpriced
    · rw [hfree] at hold
      contradiction
    · rw [hgood.apart name hold] at hpriced
      contradiction
  · exact hgood.plainToken
  · intro name h
    rcases hmaterial name h with rfl | hold
    · exact hplain
    · exact hgood.plainMaterial name hold
  · intro name h
    rcases hmaterial name h with rfl | hold
    · exact hcapital
    · exact hgood.capitalized name hold
  · intro name other h
    rw [get?_prices_withPrice] at h
    split at h
    next =>
      cases h
      exact ⟨hprice, price.credits.den_pos, price.credits.reduced⟩
    next => exact hgood.reduced name other h

end Session

namespace Interpreter

variable {before after : Interpreter} {statement : Statement} {outcome : Outcome}

theorem Step.consistent (hstep : Step before statement outcome after)
    (hgood : before.session.Consistent) : after.session.Consistent := by
  cases hstep with
  | refuse | wait | answerValue | answerPrice | collapse => exact hgood
  | learnSymbol hplain hunpriced => exact hgood.withSymbol _ hplain hunpriced
  | learnPrice hnamed _ hshared =>
      exact hgood.withPrice hnamed (Price.nonneg_of_ofRatio? hshared)

theorem Step.keeps_token (hstep : Step before statement outcome after) {name : String}
    (htoken : before.session.alphabet.contains name = true) :
    after.session.alphabet.contains name = true := by
  cases hstep with
  | refuse | wait | answerValue | answerPrice | collapse | learnPrice => exact htoken
  | learnSymbol => exact (Lexicon.contains_insert _ _ _ _).mpr (.inr htoken)

theorem Step.keeps_material (hstep : Step before statement outcome after) {name : String}
    (hmaterial : before.session.prices.contains name = true) :
    after.session.prices.contains name = true := by
  cases hstep with
  | refuse | wait | answerValue | answerPrice | collapse | learnSymbol => exact hmaterial
  | learnPrice => exact (Lexicon.contains_insert _ _ _ _).mpr (.inr hmaterial)

theorem consistent_after (policy : UnitPricePolicy) (calls : List Call) :
    (({ policy } : Interpreter).after calls).session.Consistent :=
  after_preserves (fun interpreter => interpreter.session.Consistent)
    (fun hstep => hstep.consistent) Session.consistent_empty calls

/-- Every session that calls lead to is consistent, keywords in any letter case stay out of it, and
a name keeps its role in all later sessions. -/
theorem sessions_consistent_and_roles_permanent (policy : UnitPricePolicy)
    (calls later : List Call) :
    let early := (({ policy } : Interpreter).after calls).session
    let late := (({ policy } : Interpreter).after (calls ++ later)).session
    early.Consistent ∧
      (∀ name, Text.sameIgnoringCase name Keyword.how.text = true →
        early.alphabet.contains name = false ∧ early.prices.contains name = false) ∧
      (∀ name, early.alphabet.contains name = true →
        late.alphabet.contains name = true ∧ late.prices.contains name = false) ∧
      (∀ name, early.prices.contains name = true →
        late.prices.contains name = true ∧ late.alphabet.contains name = false) := by
  intro early late
  have hearly : early.Consistent := consistent_after policy calls
  have hlate : late.Consistent := consistent_after policy (calls ++ later)
  have hrun : late = ((({ policy } : Interpreter).after calls).after later).session := by
    simp only [late, after_append]
  refine ⟨hearly, ?_, ?_, ?_⟩
  · intro name hname
    exact hearly.absent_of_reserved (Keyword.isReserved_of_sameIgnoringCase hname)
  · intro name htoken
    have hkept : late.alphabet.contains name = true := by
      rw [hrun]
      exact after_preserves (fun interpreter => interpreter.session.alphabet.contains name)
        (fun hstep => hstep.keeps_token) htoken later
    exact ⟨hkept, hlate.apart name hkept⟩
  · intro name hmaterial
    have hkept : late.prices.contains name = true := by
      rw [hrun]
      exact after_preserves (fun interpreter => interpreter.session.prices.contains name)
        (fun hstep => hstep.keeps_material) hmaterial later
    exact ⟨hkept, hlate.tokenless_of_material hkept⟩

end Interpreter
end RomanTrade
