import RomanTrade.Proofs.InterpreterStep

/-!
# Refusals

A statement is refused for its token, for its material, for its amount, or for the price that it
leads to; `Interpreter.Refuses` names the cause of each refusal.  A malformed line is echoed whole,
unless its amount names a priced material: then only the amount is echoed.
-/

namespace RomanTrade

namespace Text

theorem length_joinWords {ws : List String} (hne : ws ≠ []) :
    (joinWords ws).length + 1 = (ws.flatMap fun word => ' ' :: word.toList).length := by
  induction ws with
  | nil => contradiction
  | cons first rest ih =>
      by_cases hrest : rest = []
      · subst hrest
        have hjoin : joinWords [first] = first := String.intercalate_singleton
        simp [hjoin, String.length_toList]
      · have hjoin : joinWords (first :: rest) = first ++ " " ++ joinWords rest :=
          String.intercalate_cons_of_ne_nil hrest
        have hspace : " ".length = 1 := rfl
        rw [hjoin, String.length_append, String.length_append, List.flatMap_cons,
          List.length_append, ← ih hrest, List.length_cons, String.length_toList]
        omega

theorem length_joinWords_lt (front : List String) {middle back : List String}
    (hmiddle : middle ≠ []) (hback : back ≠ []) :
    (joinWords middle).length < (joinWords (front ++ middle ++ back)).length := by
  have hpart := length_joinWords hmiddle
  have hrest := length_joinWords hback
  have hwhole := length_joinWords (List.append_ne_nil_of_right_ne_nil (front ++ middle) hback)
  simp only [List.flatMap_append, List.length_append] at hwhole
  omega

end Text

namespace Statement

def material? : Statement → Option String
  | priceFact _ material _ => some material
  | priceQuery _ material => some material
  | definition _ | valueQuery _ => none

/-- Something always follows the amount of a line. -/
theorem Layout.exists_split {tokens : List String} {statement : Statement}
    (h : Layout tokens statement) :
    ∃ front back, tokens = front ++ statement.amount ++ back ∧ back ≠ [] := by
  cases h with
  | definition => exact ⟨[], _, rfl, List.cons_ne_nil _ _⟩
  | priceFact => exact ⟨[], _, rfl, List.cons_ne_nil _ _⟩
  | valueQuery => exact ⟨_, _, rfl, List.cons_ne_nil _ _⟩
  | priceQuery => exact ⟨_, _, rfl, List.cons_ne_nil _ _⟩

theorem Layout.joinWords_amount_ne {tokens : List String} {statement : Statement}
    (h : Layout tokens statement) (hne : statement.amount ≠ []) :
    Text.joinWords statement.amount ≠ Text.joinWords tokens := by
  obtain ⟨front, back, htokens, hback⟩ := h.exists_split
  have hshorter := Text.length_joinWords_lt front hne hback
  rw [← htokens] at hshorter
  intro hsame
  rw [hsame] at hshorter
  exact Nat.lt_irrefl _ hshorter

end Statement

namespace Interpreter

/-- Why a statement is refused, with the tests that it has passed and failed. -/
inductive Refuses (interpreter : Interpreter) : Statement → Fault → Prop where
  | reservedWord {definition : Definition}
      (reserved : Keyword.isReserved definition.token = true) :
      Refuses interpreter (.definition definition) (.reservedWord definition.token)
  | tokenIsMaterial {definition : Definition}
      (priced : interpreter.session.prices.contains definition.token = true) :
      Refuses interpreter (.definition definition) (.tokenIsMaterial definition.token)
  | notAMaterial {statement : Statement} {material : String}
      (slot : statement.material? = some material)
      (unnamed : interpreter.session.isMaterialName material = false) :
      Refuses interpreter statement (.notAMaterial material)
  | unknownMaterial {amount : List String} {material : String}
      (unpriced : interpreter.session.prices.contains material = false) :
      Refuses interpreter (.priceQuery amount material) (.unknownMaterial material)
  | malformed {statement : Statement} {word : String} (mem : word ∈ statement.amount)
      (priced : interpreter.session.prices.contains word = true) :
      Refuses interpreter statement (.malformed statement.amount)
  | invalidNumeral {statement : Statement} {numeral : Numeral} {violation : Violation}
      (resolved : interpreter.session.alphabet.resolve statement.amount = .resolved numeral)
      (broken : numeral.violation? = some violation) :
      Refuses interpreter statement
        (.invalidNumeral (Text.joinWords statement.amount) violation)
  | fractionalUnitPrice {amount : List String} {material : String} {credits units : Nat}
      {price : Price} (counted : interpreter.session.quantity amount = .ok (.resolved units))
      (shared : Price.ofRatio? credits units = some price)
      (policy : interpreter.policy = .wholeCredits) (fraction : price.isWhole = false) :
      Refuses interpreter (.priceFact amount material credits)
        (.fractionalUnitPrice material price.text)
  | priceOverflow {amount : List String} {material : String} {price : Price} {units : Nat}
      (known : interpreter.session.unitPrice material = .ok price)
      (counted : interpreter.session.quantity amount = .ok (.resolved units))
      (product : price.times? units = none) :
      Refuses interpreter (.priceQuery amount material) (.priceOverflow material)

variable {interpreter : Interpreter} {statement : Statement} {fault : Fault}
  {tokens amount : List String} {material : String}

theorem Refuses.of_evaluate
    (h : interpreter.session.evaluate statement.amount = .error fault) :
    interpreter.Refuses statement fault := by
  rcases Session.evaluate_eq_error_cases h with
    ⟨rfl, word, hmem, hpriced⟩ | ⟨numeral, violation, rfl, hresolved, hbroken⟩
  · exact .malformed hmem hpriced
  · exact .invalidNumeral hresolved hbroken

theorem refuses_of_learnSymbol {definition : Definition}
    (h : (interpreter.learnSymbol definition).1 = .refused fault) :
    interpreter.Refuses (.definition definition) fault := by
  unfold learnSymbol at h
  split at h
  next cause hdefine =>
    cases h
    unfold Session.define at hdefine
    simp only at hdefine
    split at hdefine
    next hreserved =>
      cases hdefine
      exact .reservedWord hreserved
    next =>
      split at hdefine
      next hpriced =>
        cases hdefine
        exact .tokenIsMaterial hpriced
      next => contradiction
  next => contradiction

theorem refuses_of_storePrice {credits units : Nat} {price : Price}
    (hnamed : interpreter.session.isMaterialName material = true)
    (hcounted : interpreter.session.quantity amount = .ok (.resolved units))
    (hshared : Price.ofRatio? credits units = some price)
    (h : (interpreter.storePrice material price).1 = .refused fault) :
    interpreter.Refuses (.priceFact amount material credits) fault := by
  unfold storePrice Session.setPrice at h
  split at h
  next hpolicy =>
    cases h
    exact .fractionalUnitPrice hcounted hshared hpolicy.1 hpolicy.2
  next => simp [Session.checkMaterial_of_named hnamed] at h

theorem refuses_of_learnPrice {credits : Nat}
    (h : (interpreter.learnPrice amount material credits).1 = .refused fault) :
    interpreter.Refuses (.priceFact amount material credits) fault := by
  unfold learnPrice at h
  split at h
  next cause hcheck =>
    cases h
    obtain ⟨rfl, hunnamed⟩ := Session.eq_notAMaterial_of_checkMaterial hcheck
    exact .notAMaterial rfl hunnamed
  next hcheck =>
    have hnamed := Session.isMaterialName_of_checkMaterial hcheck
    split at h
    next cause hcounted =>
      cases h
      rw [Session.quantity_eq_evaluate (by simp [hcounted])] at hcounted
      exact .of_evaluate hcounted
    next => contradiction
    next units hcounted =>
      split at h
      next => contradiction
      next price hshared => exact refuses_of_storePrice hnamed hcounted hshared h

theorem refuses_of_answerValue (h : answerValue interpreter.session amount = .refused fault) :
    interpreter.Refuses (.valueQuery amount) fault := by
  unfold answerValue at h
  split at h
  next cause hcounted =>
    cases h
    exact .of_evaluate hcounted
  next => contradiction
  next => contradiction

theorem refuses_of_answerPrice
    (h : answerPrice interpreter.session amount material = .refused fault) :
    interpreter.Refuses (.priceQuery amount material) fault := by
  unfold answerPrice at h
  split at h
  next cause hunknown =>
    cases h
    rcases Session.unitPrice_eq_error_cases hunknown with ⟨rfl, hunnamed⟩ | ⟨rfl, hunpriced⟩
    · exact .notAMaterial rfl hunnamed
    · exact .unknownMaterial hunpriced
  next price hknown =>
    split at h
    next cause hcounted =>
      cases h
      rw [Session.quantity_eq_evaluate (by simp [hcounted])] at hcounted
      exact .of_evaluate hcounted
    next => contradiction
    next units hcounted =>
      split at h
      next hproduct =>
        cases h
        exact .priceOverflow hknown hcounted hproduct
      next => contradiction

/-- Every refusal of a statement has one of the causes. -/
theorem refuses_of_run (h : (interpreter.run statement).1 = .refused fault) :
    interpreter.Refuses statement fault := by
  cases statement with
  | definition definition => exact refuses_of_learnSymbol h
  | priceFact amount material credits => exact refuses_of_learnPrice h
  | valueQuery amount => exact refuses_of_answerValue h
  | priceQuery amount material => exact refuses_of_answerPrice h

end Interpreter

/-- Whether the amount of the statement that a line makes names a priced material. -/
def Session.pricesAmountOf (session : Session) (tokens : List String) : Bool :=
  match Statement.ofTokens tokens with
  | .ok statement => statement.amount.any session.prices.contains
  | .error _ => false

namespace Interpreter

variable {interpreter : Interpreter} {tokens echoed : List String}

/-- A malformed line is no statement and echoed whole, or it is a statement that names a priced
material in its amount and only the amount is echoed. -/
theorem echoed_cases (h : (interpreter.execute tokens).1 = .refused (.malformed echoed)) :
    (interpreter.session.pricesAmountOf tokens = false ∧ echoed = tokens) ∨
      interpreter.session.pricesAmountOf tokens = true ∧
        Text.joinWords echoed ≠ Text.joinWords tokens := by
  unfold execute at h
  unfold Session.pricesAmountOf
  split at h
  next fault hread =>
    rw [hread]
    cases h
    rcases Statement.eq_malformed_or_unrecognized_of_ofTokens hread with hwhole | hother
    · exact .inl ⟨rfl, Fault.malformed.inj hwhole⟩
    · contradiction
  next statement hread =>
    rw [hread]
    have hrefuses := refuses_of_run h
    generalize hfault : Fault.malformed echoed = fault at hrefuses
    cases hrefuses with
    | malformed hmem hpriced =>
        have hlayout := Statement.layout_of_ofTokens hread
        rw [Fault.malformed.inj hfault]
        exact .inr ⟨List.any_eq_true.mpr ⟨_, hmem, hpriced⟩,
          hlayout.joinWords_amount_ne (List.ne_nil_of_mem hmem)⟩
    | _ => contradiction

theorem echoed_of_supplyDefinition {missing : String}
    (h : (interpreter.supplyDefinition missing tokens).1 = .refused (.malformed echoed)) :
    echoed = tokens := by
  unfold supplyDefinition at h
  split at h
  next fault hread =>
    cases h
    exact Fault.malformed.inj (Definition.eq_malformed_of_ofTokens hread)
  next definition hread =>
    split at h
    next =>
      -- A definition has no amount, so none of its refusals is for a malformed line.
      have hrefuses := refuses_of_learnSymbol h
      cases hrefuses with
      | malformed hmem => simp [Statement.amount] at hmem
    next =>
      cases h
      rfl

/-- A reply that calls a line malformed echoes the whole line, except that of a statement with a
priced material in its amount the amount is echoed.  An answer to a question is always echoed
whole. -/
theorem malformed_replies_echo_line_iff (interpreter : Interpreter) (missing : String)
    (tokens : List String) :
    (∀ echoed, (interpreter.execute tokens).1 = .refused (.malformed echoed) →
      (Text.joinWords echoed = Text.joinWords tokens ↔
        interpreter.session.pricesAmountOf tokens = false)) ∧
    ∀ echoed, (interpreter.supplyDefinition missing tokens).1 = .refused (.malformed echoed) →
      Text.joinWords echoed = Text.joinWords tokens := by
  constructor
  · intro echoed hrefused
    rcases echoed_cases hrefused with ⟨hunpriced, rfl⟩ | ⟨hpriced, hdiffer⟩
    · exact iff_of_true rfl hunpriced
    · exact iff_of_false hdiffer (by simp [hpriced])
  · intro echoed hrefused
    rw [echoed_of_supplyDefinition hrefused]

/-- A question that lacks its material is echoed whole, also when it comes for an answer. -/
theorem cut_off_question_is_echoed_whole :
    let told := (({} : Interpreter).execute ["Gold", "is", "5", "Credits"]).2
    let tokens := ["how", "many", "Credits", "is", "?"]
    (told.execute tokens).1 = .refused (.malformed tokens) ∧
      (told.supplyDefinition "glob" tokens).1 = .refused (.malformed tokens) ∧
      told.session.pricesAmountOf tokens = false := by
  intro told tokens
  have hexecuted : (told.execute tokens).1 = .refused (.malformed tokens) := by decide
  have hsupplied : (told.supplyDefinition "glob" tokens).1 = .refused (.malformed tokens) := by
    decide
  have hechoes := malformed_replies_echo_line_iff told "glob" tokens
  have hwhole := hechoes.2 tokens hsupplied
  exact ⟨hexecuted, hsupplied, (hechoes.1 tokens hexecuted).mp hwhole⟩

/-- After `Gold is 5 Credits` a question for the value of `Gold` is malformed, and only `Gold` is
echoed. -/
theorem priced_amount_is_echoed_alone :
    let told := (({} : Interpreter).execute ["Gold", "is", "5", "Credits"]).2
    let tokens := ["how", "much", "is", "Gold", "?"]
    (told.execute tokens).1 = .refused (.malformed ["Gold"]) ∧
      Text.joinWords ["Gold"] ≠ Text.joinWords tokens := by
  decide

end Interpreter
end RomanTrade
