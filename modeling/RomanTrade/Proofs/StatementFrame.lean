import RomanTrade.Proofs.InterpreterStep

/-!
# What a statement leaves alone

A line that is not learned leaves the interpreter as it was.  A line that is learned writes one
entry of one table: the symbol of the defined token, or the price of the material of the fact.
-/

namespace RomanTrade

/-- From `before` to `after` only the symbol of one token was written. -/
structure Session.TokenWritten (before after : Session) (token : String) (symbol : Symbol) :
    Prop where
  written : after.alphabet.get? token = some symbol
  others : ∀ word, word ≠ token → after.alphabet.get? word = before.alphabet.get? word
  prices : after.prices = before.prices

/-- From `before` to `after` only the price of one material was written. -/
structure Session.PriceWritten (before after : Session) (material : String) (price : Price) :
    Prop where
  written : after.prices.get? material = some price
  others : ∀ word, word ≠ material → after.prices.get? word = before.prices.get? word
  alphabet : after.alphabet = before.alphabet

theorem Session.tokenWritten_withSymbol (session : Session) (definition : Definition) :
    session.TokenWritten (session.withSymbol definition) definition.token definition.symbol := by
  constructor
  · rw [get?_alphabet_withSymbol, if_pos rfl]
  · intro word hword
    rw [get?_alphabet_withSymbol, if_neg hword]
  · rfl

theorem Session.priceWritten_withPrice (session : Session) (material : String) (price : Price) :
    session.PriceWritten (session.withPrice material price) material price := by
  constructor
  · rw [get?_prices_withPrice, if_pos rfl]
  · intro word hword
    rw [get?_prices_withPrice, if_neg hword]
  · rfl

namespace Interpreter

/-- The change that a statement makes when it is learned. -/
def LearnedBy (before : Interpreter) (statement : Statement) (after : Interpreter) : Prop :=
  after.policy = before.policy ∧
    match statement with
    | .definition definition =>
        before.session.TokenWritten after.session definition.token definition.symbol
    | .priceFact amount material credits =>
        ∃ units price, before.session.quantity amount = .ok (.resolved units) ∧
          Price.ofRatio? credits units = some price ∧
          before.session.PriceWritten after.session material price
    | .valueQuery _ | .priceQuery _ _ => False

variable {before after : Interpreter} {statement : Statement} {outcome : Outcome}

theorem Step.eq_of_not_learned (hstep : Step before statement outcome after)
    (houtcome : ∀ note, outcome ≠ .replied (.learned note)) : after = before := by
  cases hstep with
  | refuse | wait | answerValue | answerPrice | collapse => rfl
  | learnSymbol | learnPrice => exact absurd rfl (houtcome _)

theorem Step.learnedBy {note : String}
    (hstep : Step before statement (.replied (.learned note)) after) :
    before.LearnedBy statement after := by
  cases hstep with
  | @learnSymbol definition =>
      exact ⟨rfl, before.session.tokenWritten_withSymbol definition⟩
  | @learnPrice amount material credits units price hnamed hcounted hshared =>
      exact ⟨rfl, units, price, hcounted, hshared,
        before.session.priceWritten_withPrice material price⟩

theorem execute_eq_of_not_learned (interpreter : Interpreter) (tokens : List String)
    (houtcome : ∀ note, (interpreter.execute tokens).1 ≠ .replied (.learned note)) :
    (interpreter.execute tokens).2 = interpreter := by
  rcases interpreter.execute_cases tokens with ⟨fault, _, hrefused⟩ | ⟨statement, _, hstep⟩
  · rw [hrefused]
  · exact hstep.eq_of_not_learned houtcome

theorem eq_of_execute_eq_missing {interpreter next : Interpreter} {tokens : List String}
    {token : String} (hstops : interpreter.execute tokens = (.replied (.missing token), next)) :
    next = interpreter := by
  have hsame := interpreter.execute_eq_of_not_learned tokens (by simp [hstops])
  rwa [hstops] at hsame

/-- A line writes one entry when it is learned and nothing otherwise, whether it is executed or
taken as the answer to a question. -/
theorem lines_write_one_entry_or_none (interpreter : Interpreter) (missing : String)
    (tokens : List String) :
    (match interpreter.execute tokens with
      | (.replied (.learned _), next) =>
          ∃ statement, Statement.ofTokens tokens = .ok statement ∧
            interpreter.LearnedBy statement next
      | (_, next) => next = interpreter) ∧
    (match interpreter.supplyDefinition missing tokens with
      | (.replied (.learned _), next) =>
          ∃ symbol : Symbol, tokens = [missing, Keyword.is.text, symbol.text] ∧
            interpreter.LearnedBy (.definition ⟨missing, symbol⟩) next
      | (_, next) => next = interpreter) := by
  constructor
  · rcases interpreter.execute_cases tokens with ⟨fault, _, hrefused⟩ | ⟨statement, hread, hstep⟩
    · rw [hrefused]
    · cases hexecute : interpreter.execute tokens with
      | mk outcome next =>
        rw [hexecute] at hstep
        split
        next note _ heq =>
          cases heq
          exact ⟨statement, hread, hstep.learnedBy⟩
        next hother heq =>
          cases heq
          exact hstep.eq_of_not_learned fun note hnote => hother note hnote
  · rcases interpreter.supplyDefinition_cases missing tokens with
      ⟨fault, _, hrefused⟩ | ⟨symbol, htokens, hplain, hunpriced⟩
    · rw [hrefused]
    · rw [htokens, supplyDefinition_definition]
      have hlearned := interpreter.learnSymbol_of_free ⟨missing, symbol⟩ hplain hunpriced
      have hstep := interpreter.learnSymbol_step ⟨missing, symbol⟩
      rw [hlearned] at hstep ⊢
      exact ⟨symbol, rfl, hstep.learnedBy⟩

end Interpreter
end RomanTrade
