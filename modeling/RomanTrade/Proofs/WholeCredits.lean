import RomanTrade.Proofs.PriceReadBack
import RomanTrade.Proofs.SessionInvariant
import RomanTrade.Proofs.StatementNames

/-!
# The policy of whole Credits

The policy takes effect at one place: a unit price with a fraction is refused instead of stored.
Such a refusal leaves no trace, and any other call does the same under the policy that allows
fractions, so a run is the run without the refused facts.  Prices that are stored whole stay whole
when they are multiplied and are answered as integers.
-/

namespace RomanTrade

def Outcome.isFractional : Outcome → Bool
  | .refused (.fractionalUnitPrice _ _) => true
  | _ => false

namespace Interpreter

/-- The calls of a run, each with its outcome. -/
def transcript (interpreter : Interpreter) : List Call → List (Call × Outcome)
  | [] => []
  | call :: rest =>
    (call, (interpreter.perform call).1) :: (interpreter.perform call).2.transcript rest

/-- The same session under the policy that allows fractions. -/
def lenient (interpreter : Interpreter) : Interpreter :=
  { interpreter with policy := .allowFractional }

@[simp] theorem session_lenient (interpreter : Interpreter) :
    interpreter.lenient.session = interpreter.session := rfl

/-- An action that gives the same under the lenient policy, unless it is refused for a fraction and
then does nothing. -/
structure OnlyRefuses (interpreter : Interpreter) (act : Interpreter → Outcome × Interpreter) :
    Prop where
  traceless : (act interpreter).1.isFractional = true → (act interpreter).2 = interpreter
  same : (act interpreter).1.isFractional = false →
    act interpreter.lenient = ((act interpreter).1, (act interpreter).2.lenient)

variable (interpreter : Interpreter)

variable {interpreter : Interpreter} {act : Interpreter → Outcome × Interpreter}

theorem OnlyRefuses.of_unchanged (outcome : Outcome)
    (hhere : act interpreter = (outcome, interpreter))
    (hlenient : act interpreter.lenient = (outcome, interpreter.lenient)) :
    interpreter.OnlyRefuses act := by
  constructor
  · intro _
    rw [hhere]
  · intro _
    rw [hhere, hlenient]

theorem OnlyRefuses.of_learned (note : String) (session : Session)
    (hhere : act interpreter = (.replied (.learned note), { interpreter with session }))
    (hlenient : act interpreter.lenient =
      (.replied (.learned note), { interpreter.lenient with session })) :
    interpreter.OnlyRefuses act := by
  constructor
  · intro hfractional
    rw [hhere] at hfractional
    contradiction
  · intro _
    rw [hhere, hlenient]
    rfl

variable (interpreter)

theorem onlyRefuses_learnSymbol (definition : Definition) :
    interpreter.OnlyRefuses (·.learnSymbol definition) := by
  cases hdefine : interpreter.session.define definition with
  | error fault =>
      apply OnlyRefuses.of_unchanged (.refused fault)
      · simp only [learnSymbol, hdefine]
      · simp only [learnSymbol, session_lenient, hdefine]
  | ok defined =>
      apply OnlyRefuses.of_learned (definitionNote definition defined.1) defined.2
      · simp only [learnSymbol, hdefine]
      · simp only [learnSymbol, session_lenient, hdefine]

theorem onlyRefuses_storePrice (material : String) (price : Price) :
    interpreter.OnlyRefuses (·.storePrice material price) := by
  by_cases hfraction : interpreter.policy = .wholeCredits ∧ price.isWhole = false
  · have hrefused : interpreter.storePrice material price =
        (.refused (.fractionalUnitPrice material price.text), interpreter) := by
      rw [storePrice, if_pos hfraction]
    constructor
    · intro _
      rw [hrefused]
    · intro hother
      rw [hrefused] at hother
      contradiction
  · have hlenient : ¬ (interpreter.lenient.policy = .wholeCredits ∧ price.isWhole = false) := by
      rintro ⟨hpolicy, _⟩
      contradiction
    cases hstored : interpreter.session.setPrice material price with
    | error fault =>
        apply OnlyRefuses.of_unchanged (.refused fault)
        · simp only [storePrice, hfraction, if_false, hstored]
        · simp only [storePrice, hlenient, if_false, session_lenient, hstored]
    | ok stored =>
        apply OnlyRefuses.of_learned s!"Priced {material} at {price.text} Credits per unit" stored.2
        · simp only [storePrice, hfraction, if_false, hstored]
        · simp only [storePrice, hlenient, if_false, session_lenient, hstored]

theorem onlyRefuses_learnPrice (amount : List String) (material : String) (credits : Nat) :
    interpreter.OnlyRefuses (·.learnPrice amount material credits) := by
  cases hcheck : interpreter.session.checkMaterial material with
  | error fault =>
      apply OnlyRefuses.of_unchanged (.refused fault)
      · simp only [learnPrice, hcheck]
      · simp only [learnPrice, session_lenient, hcheck]
  | ok _ =>
    cases hcounted : interpreter.session.quantity amount with
    | error fault =>
        apply OnlyRefuses.of_unchanged (.refused fault)
        · simp only [learnPrice, hcheck, hcounted]
        · simp only [learnPrice, session_lenient, hcheck, hcounted]
    | ok resolution =>
      cases resolution with
      | missing token =>
          apply OnlyRefuses.of_unchanged (.replied (.missing token))
          · simp only [learnPrice, hcheck, hcounted]
          · simp only [learnPrice, session_lenient, hcheck, hcounted]
      | resolved units =>
        cases hshared : Price.ofRatio? credits units with
        | none =>
            apply OnlyRefuses.of_unchanged .zeroQuantity
            · simp only [learnPrice, hcheck, hcounted, hshared]
            · simp only [learnPrice, session_lenient, hcheck, hcounted, hshared]
        | some price =>
            have hstored := interpreter.onlyRefuses_storePrice material price
            constructor
            · simp only [learnPrice, hcheck, hcounted, hshared]
              exact hstored.traceless
            · simp only [learnPrice, session_lenient, hcheck, hcounted, hshared]
              exact hstored.same

theorem onlyRefuses_run (statement : Statement) : interpreter.OnlyRefuses (·.run statement) := by
  cases statement with
  | definition definition => exact interpreter.onlyRefuses_learnSymbol definition
  | priceFact amount material credits =>
      exact interpreter.onlyRefuses_learnPrice amount material credits
  | valueQuery amount =>
      exact .of_unchanged (answerValue interpreter.session amount) rfl rfl
  | priceQuery amount material =>
      exact .of_unchanged (answerPrice interpreter.session amount material) rfl rfl

theorem onlyRefuses_perform (call : Call) : interpreter.OnlyRefuses (·.perform call) := by
  cases call with
  | execute tokens =>
      cases hread : Statement.ofTokens tokens with
      | error fault =>
          apply OnlyRefuses.of_unchanged (.refused fault)
          · simp only [perform, execute, hread]
          · simp only [perform, execute, hread]
      | ok statement =>
          have hrun := interpreter.onlyRefuses_run statement
          constructor
          · simp only [perform, execute, hread]
            exact hrun.traceless
          · simp only [perform, execute, hread]
            exact hrun.same
  | supply missing tokens =>
      cases hread : Definition.ofTokens tokens with
      | error fault =>
          apply OnlyRefuses.of_unchanged (.refused fault)
          · simp only [perform, supplyDefinition, hread]
          · simp only [perform, supplyDefinition, hread]
      | ok definition =>
        by_cases htoken : definition.token = missing
        · have hlearned := interpreter.onlyRefuses_learnSymbol definition
          constructor
          · simp only [perform, supplyDefinition, hread, htoken, if_true]
            exact hlearned.traceless
          · simp only [perform, supplyDefinition, hread, htoken, if_true]
            exact hlearned.same
        · apply OnlyRefuses.of_unchanged (.refused (.malformed tokens))
          · simp only [perform, supplyDefinition, hread, htoken, if_false]
          · simp only [perform, supplyDefinition, hread, htoken, if_false]

/-- What is left of a run when the facts refused for a fraction are taken out. -/
def keptCalls (calls : List Call) : List (Call × Outcome) :=
  (interpreter.transcript calls).filter fun entry => !entry.2.isFractional

/-- The kept calls go the same way under the lenient policy, and lead to the same session. -/
theorem lenient_run_of_kept (calls : List Call) :
    interpreter.lenient.transcript ((interpreter.keptCalls calls).map Prod.fst) =
        interpreter.keptCalls calls ∧
      interpreter.lenient.after ((interpreter.keptCalls calls).map Prod.fst) =
        (interpreter.after calls).lenient := by
  induction calls generalizing interpreter with
  | nil => exact ⟨rfl, rfl⟩
  | cons call rest ih =>
      have hcall := interpreter.onlyRefuses_perform call
      have hafter : interpreter.after (call :: rest) = (interpreter.perform call).2.after rest :=
        rfl
      obtain ⟨htranscript, hsession⟩ := ih (interpreter.perform call).2
      rw [hafter]
      cases hfractional : (interpreter.perform call).1.isFractional with
      | true =>
          have hskip : interpreter.keptCalls (call :: rest) = interpreter.keptCalls rest := by
            simp [keptCalls, transcript, hfractional, hcall.traceless hfractional]
          rw [hskip]
          rw [hcall.traceless hfractional] at htranscript hsession ⊢
          exact ⟨htranscript, hsession⟩
      | false =>
          have hkeep : interpreter.keptCalls (call :: rest) =
              (call, (interpreter.perform call).1) ::
                (interpreter.perform call).2.keptCalls rest := by
            simp [keptCalls, transcript, hfractional]
          have hsame := hcall.same hfractional
          rw [hkeep, List.map_cons]
          constructor
          · simp only [transcript, hsame, htranscript]
          · simpa only [after, List.foldl_cons, hsame] using hsession

end Interpreter

/-! ### Whole prices -/

namespace Session

theorem get?_of_unitPrice {session : Session} {material : String} {price : Price}
    (hknown : session.unitPrice material = .ok price) :
    session.prices.get? material = some price := by
  unfold unitPrice at hknown
  split at hknown
  next => contradiction
  next =>
    split at hknown
    next stored hstored =>
      cases hknown
      exact hstored
    next => contradiction

def WholePrices (session : Session) : Prop :=
  ∀ material price, session.prices.get? material = some price → price.isWhole = true

theorem WholePrices.withPrice {session : Session} (hwhole : session.WholePrices)
    (material : String) {price : Price} (hprice : price.isWhole = true) :
    (session.withPrice material price).WholePrices := by
  intro name other hother
  rw [get?_prices_withPrice] at hother
  split at hother
  next =>
    cases hother
    exact hprice
  next => exact hwhole name other hother

end Session

namespace Price

theorem exists_credits_of_whole {price : Price} (hwhole : price.isWhole = true)
    (hpositive : 0 ≤ price.credits.num) : ∃ credits : Nat, price = ⟨credits⟩ := by
  have hden : price.credits.den = 1 := by
    simpa [isWhole] using hwhole
  obtain ⟨credits, hnum⟩ := Int.eq_ofNat_of_zero_le hpositive
  have hvalue : price.credits = (price.credits.num : Rat) :=
    (Rat.coe_int_num_of_den_eq_one hden).symm
  refine ⟨credits, ?_⟩
  rw [hnum] at hvalue
  exact congrArg Price.mk hvalue

theorem text_of_times {credits units : Nat} {total : Price}
    (hproduct : Price.times? ⟨credits⟩ units = some total) :
    total.text = toString (credits * units) := by
  rw [times?_eq] at hproduct
  split at hproduct
  next =>
    have htotal : total = ⟨(credits * units : Nat)⟩ := by
      rw [← Option.some.inj hproduct, Nat.cast_mul]
    rw [htotal, text_of_whole]
  next => contradiction

end Price

namespace Interpreter

theorem Step.wholePrices {before after : Interpreter} {statement : Statement} {outcome : Outcome}
    (hstep : Step before statement outcome after) (hpolicy : before.policy = .wholeCredits)
    (hwhole : before.session.WholePrices) : after.session.WholePrices := by
  cases hstep with
  | refuse | wait | answerValue | answerPrice | collapse | learnSymbol => exact hwhole
  | learnPrice _ _ _ hallowed => exact hwhole.withPrice _ (hallowed hpolicy)

theorem wholePrices_after (calls : List Call) :
    (({ policy := .wholeCredits } : Interpreter).after calls).session.WholePrices := by
  have hstart : Session.WholePrices {} := by
    intro material price hprice
    contradiction
  let strict : Interpreter := { policy := .wholeCredits }
  have hgood : strict.policy = .wholeCredits ∧ strict.session.WholePrices := ⟨rfl, hstart⟩
  have hrun := after_preserves
    (fun current => current.policy = .wholeCredits ∧ current.session.WholePrices)
    (fun hstep hgood => ⟨hstep.policy_eq.trans hgood.1, hstep.wholePrices hgood.1 hgood.2⟩)
    hgood calls
  exact hrun.2

theorem answer_of_wholePrices {interpreter : Interpreter}
    (hgood : interpreter.session.Consistent) (hwhole : interpreter.session.WholePrices)
    {tokens amount : List String} {material text : String}
    (hread : Statement.ofTokens tokens = .ok (.priceQuery amount material))
    (hanswer : (interpreter.execute tokens).1 = .replied (.answer text)) :
    ∃ credits : Nat, text = s!"{Text.joinWords (amount ++ [material])} is {credits} Credits" := by
  have hstep := interpreter.run_step (.priceQuery amount material)
  rw [← interpreter.execute_eq_run hread, hanswer] at hstep
  generalize (interpreter.execute tokens).2 = next at hstep
  cases hstep with
  | @answerPrice _ _ price total units hknown _ hproduct =>
      have hprice := Session.get?_of_unitPrice hknown
      obtain ⟨credits, rfl⟩ := Price.exists_credits_of_whole (hwhole material price hprice)
        (hgood.reduced material price hprice).1
      refine ⟨credits * units, ?_⟩
      rw [priceAnswer, Price.text_of_times hproduct]
      rfl

/-- For every list of calls, a run under the policy of whole Credits is the run under the lenient
policy of the calls that are not refused for a fraction, with the same outcomes and the same
session.  All its prices are whole, and so is every price that it answers. -/
theorem whole_credits_only_refuses (calls : List Call) :
    let strict : Interpreter := { policy := .wholeCredits }
    let free : Interpreter := { policy := .allowFractional }
    let kept := (strict.transcript calls).filter fun entry => !entry.2.isFractional
    free.transcript (kept.map Prod.fst) = kept ∧
      (free.after (kept.map Prod.fst)).session = (strict.after calls).session ∧
      (∀ material price, (strict.after calls).session.prices.get? material = some price →
        price.isWhole = true) ∧
      (∀ tokens amount material text,
        Statement.ofTokens tokens = .ok (.priceQuery amount material) →
        ((strict.after calls).execute tokens).1 = .replied (.answer text) →
          ∃ credits : Nat,
            text = s!"{Text.joinWords (amount ++ [material])} is {credits} Credits") := by
  intro strict free kept
  obtain ⟨htranscript, hafter⟩ := strict.lenient_run_of_kept calls
  have hwhole : (strict.after calls).session.WholePrices := wholePrices_after calls
  have hgood : (strict.after calls).session.Consistent := consistent_after .wholeCredits calls
  refine ⟨htranscript, ?_, hwhole, ?_⟩
  · have hsession := congrArg Interpreter.session hafter
    exact hsession
  · intro tokens amount material text hread hanswer
    exact answer_of_wholePrices hgood hwhole hread hanswer

end Interpreter
end RomanTrade
