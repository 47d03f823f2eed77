import RomanTrade.Interpreter
import RomanTrade.Proofs.AmountResolution
import RomanTrade.Proofs.StatementGrammar

/-!
# One step of the interpreter

`Interpreter.Step` says everything that a statement can do to an interpreter, with the tests that
it has passed: it is refused, it stops at a token, it answers, it gives one token a symbol, or it
gives one material a price.  Execution always makes such a step, so an invariant is shown by cases
over the steps and never opens the interpreter again.
-/

namespace RomanTrade

namespace Session

def withSymbol (session : Session) (definition : Definition) : Session :=
  { session with alphabet := session.alphabet.insert definition.token definition.symbol }

def withPrice (session : Session) (material : String) (price : Price) : Session :=
  { session with prices := session.prices.insert material price }

variable {session : Session} {amount : List String} {fault : Fault}

@[simp] theorem prices_withSymbol (definition : Definition) :
    (session.withSymbol definition).prices = session.prices := rfl

@[simp] theorem alphabet_withPrice (material : String) (price : Price) :
    (session.withPrice material price).alphabet = session.alphabet := rfl

theorem get?_alphabet_withSymbol (definition : Definition) (word : String) :
    (session.withSymbol definition).alphabet.get? word =
      if word = definition.token then some definition.symbol else session.alphabet.get? word :=
  Lexicon.get?_insert _ _ _ _

theorem get?_prices_withPrice (material : String) (price : Price) (word : String) :
    (session.withPrice material price).prices.get? word =
      if word = material then some price else session.prices.get? word :=
  Lexicon.get?_insert _ _ _ _

theorem isUserFault_of_evaluate (h : session.evaluate amount = .error fault) :
    fault.isUserFault = true := by
  rcases evaluate_eq_error_cases h with ⟨rfl, _⟩ | ⟨numeral, violation, rfl, _⟩
  · rfl
  · rfl

/-- Only a nonempty amount can be refused or stop. -/
theorem quantity_eq_evaluate (h : session.quantity amount ≠ .ok (.resolved 1)) :
    session.quantity amount = session.evaluate amount := by
  unfold quantity at h ⊢
  split
  next hempty => simp [hempty] at h
  next => rfl

theorem isUserFault_of_quantity (h : session.quantity amount = .error fault) :
    fault.isUserFault = true := by
  rw [quantity_eq_evaluate (by simp [h])] at h
  exact isUserFault_of_evaluate h

theorem eq_notAMaterial_of_checkMaterial {name : String}
    (h : session.checkMaterial name = .error fault) :
    fault = .notAMaterial name ∧ session.isMaterialName name = false := by
  unfold checkMaterial at h
  split at h
  next => contradiction
  next hname => exact ⟨(Except.error.inj h).symm, by simpa using hname⟩

theorem isUserFault_of_checkMaterial {name : String}
    (h : session.checkMaterial name = .error fault) : fault.isUserFault = true := by
  obtain ⟨rfl, _⟩ := eq_notAMaterial_of_checkMaterial h
  rfl

theorem isMaterialName_of_checkMaterial {name : String} {passed : Unit}
    (h : session.checkMaterial name = .ok passed) : session.isMaterialName name = true := by
  unfold checkMaterial at h
  split at h
  next hname => exact hname
  next => contradiction

theorem checkMaterial_of_named {name : String} (h : session.isMaterialName name = true) :
    session.checkMaterial name = .ok () := by
  simp [checkMaterial, h]

theorem unitPrice_eq_error_cases {material : String}
    (h : session.unitPrice material = .error fault) :
    (fault = .notAMaterial material ∧ session.isMaterialName material = false) ∨
      fault = .unknownMaterial material ∧ session.prices.contains material = false := by
  unfold unitPrice at h
  split at h
  next cause hcheck =>
    cases h
    exact .inl (eq_notAMaterial_of_checkMaterial hcheck)
  next =>
    split at h
    next => contradiction
    next hunpriced => exact .inr ⟨(Except.error.inj h).symm, by simp [Lexicon.contains, hunpriced]⟩

theorem isUserFault_of_unitPrice {material : String}
    (h : session.unitPrice material = .error fault) : fault.isUserFault = true := by
  rcases unitPrice_eq_error_cases h with ⟨rfl, _⟩ | ⟨rfl, _⟩
  · rfl
  · rfl

end Session

namespace Interpreter

/-- What a statement does: the outcome and the interpreter after it. -/
inductive Step (before : Interpreter) : Statement → Outcome → Interpreter → Prop where
  | refuse {statement : Statement} {fault : Fault} (typed : fault.isUserFault = true) :
      Step before statement (.refused fault) before
  | wait {statement : Statement} {token : String}
      (stops : before.session.evaluate statement.amount = .ok (.missing token)) :
      Step before statement (.replied (.missing token)) before
  | answerValue {amount : List String} {value : Nat}
      (counted : before.session.evaluate amount = .ok (.resolved value)) :
      Step before (.valueQuery amount)
        (.replied (.answer s!"{Text.joinWords amount} is {value}")) before
  | answerPrice {amount : List String} {material : String} {price total : Price} {units : Nat}
      (known : before.session.unitPrice material = .ok price)
      (counted : before.session.quantity amount = .ok (.resolved units))
      (product : price.times? units = some total) :
      Step before (.priceQuery amount material)
        (.replied (.answer (priceAnswer amount material total))) before
  | learnSymbol {definition : Definition}
      (plain : Keyword.isReserved definition.token = false)
      (unpriced : before.session.prices.contains definition.token = false) :
      Step before (.definition definition)
        (.replied (.learned
          (definitionNote definition (before.session.alphabet.get? definition.token))))
        { before with session := before.session.withSymbol definition }
  | learnPrice {amount : List String} {material : String} {credits units : Nat} {price : Price}
      (named : before.session.isMaterialName material = true)
      (counted : before.session.quantity amount = .ok (.resolved units))
      (shared : Price.ofRatio? credits units = some price)
      (allowed : before.policy = .wholeCredits → price.isWhole = true) :
      Step before (.priceFact amount material credits)
        (.replied (.learned s!"Priced {material} at {price.text} Credits per unit"))
        { before with session := before.session.withPrice material price }
  | collapse {amount : List String} {material : String} {credits : Nat}
      (counted : before.session.quantity amount = .ok (.resolved 0)) :
      Step before (.priceFact amount material credits) .zeroQuantity before

variable (interpreter : Interpreter)

/-- A name that is free for a symbol is neither a keyword nor a priced material. -/
theorem learnSymbol_of_free (definition : Definition)
    (hplain : Keyword.isReserved definition.token = false)
    (hunpriced : interpreter.session.prices.contains definition.token = false) :
    interpreter.learnSymbol definition =
      (.replied (.learned
          (definitionNote definition (interpreter.session.alphabet.get? definition.token))),
        { interpreter with session := interpreter.session.withSymbol definition }) := by
  unfold learnSymbol Session.define
  simp only [hplain, hunpriced]
  rfl

theorem learnSymbol_cases (definition : Definition) :
    (∃ fault, fault.isUserFault = true ∧
        interpreter.learnSymbol definition = (.refused fault, interpreter)) ∨
      Keyword.isReserved definition.token = false ∧
        interpreter.session.prices.contains definition.token = false := by
  unfold learnSymbol Session.define
  by_cases hreserved : Keyword.isReserved definition.token = true
  · refine .inl ⟨.reservedWord definition.token, rfl, ?_⟩
    simp [hreserved]
  · by_cases hpriced : interpreter.session.prices.contains definition.token = true
    · refine .inl ⟨.tokenIsMaterial definition.token, rfl, ?_⟩
      simp [hreserved, hpriced]
    · exact .inr ⟨by simpa using hreserved, by simpa using hpriced⟩

theorem learnSymbol_step (definition : Definition) :
    Step interpreter (.definition definition) (interpreter.learnSymbol definition).1
      (interpreter.learnSymbol definition).2 := by
  rcases interpreter.learnSymbol_cases definition with ⟨fault, htyped, hrefused⟩ | ⟨hplain, hunpriced⟩
  · rw [hrefused]
    exact .refuse htyped
  · rw [interpreter.learnSymbol_of_free definition hplain hunpriced]
    exact .learnSymbol hplain hunpriced

theorem storePrice_step {amount : List String} {material : String} {credits units : Nat}
    {price : Price} (hnamed : interpreter.session.isMaterialName material = true)
    (hcounted : interpreter.session.quantity amount = .ok (.resolved units))
    (hshared : Price.ofRatio? credits units = some price) :
    Step interpreter (.priceFact amount material credits) (interpreter.storePrice material price).1
      (interpreter.storePrice material price).2 := by
  have hcheck := Session.checkMaterial_of_named hnamed
  unfold storePrice Session.setPrice
  split
  next => exact .refuse rfl
  next hallowed =>
    simp only [hcheck]
    refine .learnPrice hnamed hcounted hshared ?_
    intro hpolicy
    simpa [hpolicy] using hallowed

theorem learnPrice_step (amount : List String) (material : String) (credits : Nat) :
    Step interpreter (.priceFact amount material credits)
      (interpreter.learnPrice amount material credits).1
      (interpreter.learnPrice amount material credits).2 := by
  unfold learnPrice
  split
  next fault hcheck => exact .refuse (Session.isUserFault_of_checkMaterial hcheck)
  next hcheck =>
    have hnamed := Session.isMaterialName_of_checkMaterial hcheck
    split
    next fault hcounted => exact .refuse (Session.isUserFault_of_quantity hcounted)
    next token hcounted =>
      rw [Session.quantity_eq_evaluate (by simp [hcounted])] at hcounted
      exact .wait hcounted
    next units hcounted =>
      split
      next hshared =>
        have hzero : units = 0 := by
          simpa [Price.ofRatio?] using hshared
        exact .collapse (hzero ▸ hcounted)
      next price hshared => exact storePrice_step interpreter hnamed hcounted hshared

theorem answerValue_step (amount : List String) :
    Step interpreter (.valueQuery amount) (answerValue interpreter.session amount) interpreter := by
  unfold answerValue
  split
  next fault hcounted => exact .refuse (Session.isUserFault_of_evaluate hcounted)
  next token hcounted => exact .wait hcounted
  next value hcounted => exact .answerValue hcounted

theorem answerPrice_step (amount : List String) (material : String) :
    Step interpreter (.priceQuery amount material)
      (answerPrice interpreter.session amount material) interpreter := by
  unfold answerPrice
  split
  next fault hknown => exact .refuse (Session.isUserFault_of_unitPrice hknown)
  next price hknown =>
    split
    next fault hcounted => exact .refuse (Session.isUserFault_of_quantity hcounted)
    next token hcounted =>
      rw [Session.quantity_eq_evaluate (by simp [hcounted])] at hcounted
      exact .wait hcounted
    next units hcounted =>
      split
      next => exact .refuse rfl
      next total hproduct => exact .answerPrice hknown hcounted hproduct

theorem run_step (statement : Statement) :
    Step interpreter statement (interpreter.run statement).1 (interpreter.run statement).2 := by
  cases statement with
  | definition definition => exact learnSymbol_step interpreter definition
  | priceFact amount material credits => exact learnPrice_step interpreter amount material credits
  | valueQuery amount => exact answerValue_step interpreter amount
  | priceQuery amount material => exact answerPrice_step interpreter amount material

/-- A line of tokens is refused as no statement, or the statement that it makes takes a step. -/
theorem execute_cases (tokens : List String) :
    (∃ fault, fault.isUserFault = true ∧ interpreter.execute tokens = (.refused fault, interpreter)) ∨
      ∃ statement, Statement.ofTokens tokens = .ok statement ∧
        Step interpreter statement (interpreter.execute tokens).1 (interpreter.execute tokens).2 := by
  unfold execute
  cases hread : Statement.ofTokens tokens with
  | error fault => exact .inl ⟨fault, Statement.isUserFault_of_ofTokens hread, rfl⟩
  | ok statement => exact .inr ⟨statement, rfl, run_step interpreter statement⟩

theorem execute_eq_run {tokens : List String} {statement : Statement}
    (hread : Statement.ofTokens tokens = .ok statement) :
    interpreter.execute tokens = interpreter.run statement := by
  unfold execute
  rw [hread]

theorem execute_definition (token : String) (symbol : Symbol) :
    interpreter.execute [token, Keyword.is.text, symbol.text] =
      interpreter.learnSymbol ⟨token, symbol⟩ := by
  unfold execute
  rw [Statement.ofTokens_definition]
  rfl

theorem supplyDefinition_definition (token : String) (symbol : Symbol) :
    interpreter.supplyDefinition token [token, Keyword.is.text, symbol.text] =
      interpreter.learnSymbol ⟨token, symbol⟩ := by
  have hread : Definition.ofTokens [token, Keyword.is.text, symbol.text] = .ok ⟨token, symbol⟩ :=
    Definition.ofTokens_eq_ok_iff.mpr rfl
  unfold supplyDefinition
  simp [hread]

/-- An answer to a question is refused, or it is the definition of the missing token, which is then
free for a symbol. -/
theorem supplyDefinition_cases (missing : String) (tokens : List String) :
    (∃ fault, fault.isUserFault = true ∧
        interpreter.supplyDefinition missing tokens = (.refused fault, interpreter)) ∨
      ∃ symbol : Symbol, tokens = [missing, Keyword.is.text, symbol.text] ∧
        Keyword.isReserved missing = false ∧
        interpreter.session.prices.contains missing = false := by
  cases hread : Definition.ofTokens tokens with
  | error fault =>
      have htyped : fault.isUserFault = true := by
        rw [Definition.eq_malformed_of_ofTokens hread]
        rfl
      exact .inl ⟨fault, htyped, by simp [supplyDefinition, hread]⟩
  | ok definition =>
      by_cases htoken : definition.token = missing
      · subst htoken
        have htokens := Definition.ofTokens_eq_ok_iff.mp hread
        rcases interpreter.learnSymbol_cases definition with ⟨fault, htyped, hrefused⟩ | hfree
        · refine .inl ⟨fault, htyped, ?_⟩
          rw [htokens, supplyDefinition_definition]
          exact hrefused
        · exact .inr ⟨definition.symbol, htokens, hfree⟩
      · exact .inl ⟨.malformed tokens, rfl, by simp [supplyDefinition, hread, htoken]⟩

/-- An answer that is taken gives the missing token a symbol and changes nothing else. -/
theorem of_supplyDefinition_eq_replied {missing : String} {tokens : List String} {reply : Reply}
    {next : Interpreter}
    (htaken : interpreter.supplyDefinition missing tokens = (.replied reply, next)) :
    ∃ symbol : Symbol, tokens = [missing, Keyword.is.text, symbol.text] ∧
      interpreter.session.prices.contains missing = false ∧
      next = { interpreter with session := interpreter.session.withSymbol ⟨missing, symbol⟩ } := by
  rcases interpreter.supplyDefinition_cases missing tokens with
    ⟨fault, _, hrefused⟩ | ⟨symbol, hanswer, hplain, hunpriced⟩
  · rw [hrefused] at htaken
    simp at htaken
  · refine ⟨symbol, hanswer, hunpriced, ?_⟩
    rw [hanswer, supplyDefinition_definition,
      interpreter.learnSymbol_of_free ⟨missing, symbol⟩ hplain hunpriced] at htaken
    exact (Prod.mk.inj htaken).2.symm

end Interpreter
end RomanTrade
