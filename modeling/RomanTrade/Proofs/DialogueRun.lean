import RomanTrade.Dialogue
import RomanTrade.Proofs.InterpreterStep
import RomanTrade.Proofs.WordSplitting

/-!
# Runs of a dialogue

A dialogue hears one line after the other; only a collapse keeps it from hearing the next one.  A
line is passed over, is executed, or answers the question that the dialogue waits for.
-/

namespace RomanTrade

namespace Heard

@[simp] theorem messages_after (messages : List Message) (heard : Heard) :
    (Heard.after messages heard).messages = messages ++ heard.messages := rfl

@[simp] theorem signal_after (messages : List Message) (heard : Heard) :
    (Heard.after messages heard).signal = heard.signal := rfl

@[simp] theorem dialogue_after (messages : List Message) (heard : Heard) :
    (Heard.after messages heard).dialogue = heard.dialogue := rfl

/-- What a line led to, followed by what the later lines led to. -/
def andThen (heard : Heard) (later : Dialogue → Heard) : Heard :=
  if heard.signal = .collapse then heard else Heard.after heard.messages (later heard.dialogue)

end Heard

namespace Dialogue

def hearAll (dialogue : Dialogue) : List String → Heard
  | [] => { dialogue }
  | input :: rest => (dialogue.hear input).andThen fun next => next.hearAll rest

def fresh (policy : UnitPricePolicy) : Dialogue :=
  { interpreter := { policy } }

def Reachable (dialogue : Dialogue) : Prop :=
  ∃ policy inputs, dialogue = ((fresh policy).hearAll inputs).dialogue

theorem hearAll_preserves (Good : Dialogue → Prop)
    (hkeep : ∀ dialogue input, Good dialogue → Good (dialogue.hear input).dialogue)
    {dialogue : Dialogue} (hgood : Good dialogue) (inputs : List String) :
    Good (dialogue.hearAll inputs).dialogue := by
  induction inputs generalizing dialogue with
  | nil =>
      simp only [hearAll]
      exact hgood
  | cons input rest ih =>
      have hnext := hkeep dialogue input hgood
      simp only [hearAll, Heard.andThen]
      split
      next => exact hnext
      next =>
        rw [Heard.dialogue_after]
        exact ih hnext

/-- The tokens that a dialogue takes a line of input for. -/
def lineTokens (input : String) : List String :=
  Text.tokenize (Text.trim input)

theorem isWord_of_mem_lineTokens {input word : String} (h : word ∈ lineTokens input) :
    Text.IsWord word :=
  Text.isWord_of_mem_tokenize h

/-- A line that asks to leave is a single word. -/
theorem words_of_isExit {line : String} (h : isExit line = true) : Text.words line = [line] := by
  have hlower : line.toList.map Char.toLower = "exit".toList := by
    unfold isExit Text.sameIgnoringCase at h
    rw [eq_of_beq h]
    decide
  have hne : line.toList ≠ [] := by
    intro hnil
    rw [hnil] at hlower
    contradiction
  have hplain : ∀ c ∈ line.toList, Text.isBlank c = false := by
    intro c hc
    have hmem : c.toLower ∈ "exit".toList := hlower ▸ List.mem_map_of_mem hc
    rw [Bool.eq_false_iff]
    intro hblank
    rw [Text.toLower_of_isBlank hblank] at hmem
    have hexit : Text.IsWord "exit" := by decide
    rw [hexit.2 c hmem] at hblank
    contradiction
  rw [Text.words_eq_map_letterWords, Text.letterWords_of_plain hne hplain]
  simp

/-- Everything that a line of input can do to a dialogue: it asks to leave, is blank, is run, or is
refused or accepted as the answer to the question. -/
inductive Hears (input : String) : Dialogue → Heard → Prop where
  | leave {dialogue : Dialogue} (asks : isExit (Text.trim input) = true) :
      Hears input dialogue { signal := .finish, dialogue }
  | skip {interpreter : Interpreter} (stays : isExit (Text.trim input) = false)
      (blank : lineTokens input = []) :
      Hears input ⟨interpreter, .ready⟩ { dialogue := ⟨interpreter, .ready⟩ }
  | run {interpreter : Interpreter} (stays : isExit (Text.trim input) = false)
      (spoken : lineTokens input ≠ []) :
      Hears input ⟨interpreter, .ready⟩ (runStatement interpreter (lineTokens input))
  | reject {interpreter : Interpreter} {token : String} {pending : List String} {fault : Fault}
      (stays : isExit (Text.trim input) = false)
      (refused : interpreter.supplyDefinition token (lineTokens input) =
        (.refused fault, interpreter)) :
      Hears input ⟨interpreter, .awaiting token pending⟩
        (Heard.after [.remark s!"Rejected definition for '{token}': {fault.message}"]
          (ask interpreter token pending))
  | accept {interpreter : Interpreter} {token : String} {pending : List String} {symbol : Symbol}
      (stays : isExit (Text.trim input) = false)
      (answer : lineTokens input = [token, Keyword.is.text, symbol.text])
      (plain : Keyword.isReserved token = false)
      (unpriced : interpreter.session.prices.contains token = false) :
      Hears input ⟨interpreter, .awaiting token pending⟩
        (Heard.after
          [.note (Interpreter.definitionNote ⟨token, symbol⟩
            (interpreter.session.alphabet.get? token))]
          (runStatement
            { interpreter with session := interpreter.session.withSymbol ⟨token, symbol⟩ }
            pending))

variable {interpreter : Interpreter}

theorem answerMissing_of_refused {token : String} {pending tokens : List String} {fault : Fault}
    (htyped : fault.isUserFault = true)
    (hrefused : interpreter.supplyDefinition token tokens = (.refused fault, interpreter)) :
    answerMissing interpreter token pending tokens =
      Heard.after [.remark s!"Rejected definition for '{token}': {fault.message}"]
        (ask interpreter token pending) := by
  unfold answerMissing
  simp [hrefused, htyped]

theorem answerMissing_of_free {token : String} {pending : List String} (symbol : Symbol)
    (hplain : Keyword.isReserved token = false)
    (hunpriced : interpreter.session.prices.contains token = false) :
    answerMissing interpreter token pending [token, Keyword.is.text, symbol.text] =
      Heard.after
        [.note (Interpreter.definitionNote ⟨token, symbol⟩
          (interpreter.session.alphabet.get? token))]
        (runStatement
          { interpreter with session := interpreter.session.withSymbol ⟨token, symbol⟩ } pending) := by
  unfold answerMissing
  rw [Interpreter.supplyDefinition_definition,
    interpreter.learnSymbol_of_free ⟨token, symbol⟩ hplain hunpriced]
  rfl

theorem hear_awaiting {input token : String} {pending : List String}
    (hstays : isExit (Text.trim input) = false) :
    hear ⟨interpreter, .awaiting token pending⟩ input =
      answerMissing interpreter token pending (lineTokens input) := by
  unfold hear lineTokens
  simp [hstays]

theorem hear_hears (dialogue : Dialogue) (input : String) :
    Hears input dialogue (dialogue.hear input) := by
  obtain ⟨interpreter, stage⟩ := dialogue
  cases hexit : isExit (Text.trim input) with
  | true =>
      simp only [hear, hexit, if_true]
      exact .leave hexit
  | false =>
    cases stage with
    | ready =>
        simp only [hear, hexit, List.isEmpty_iff, Bool.false_eq_true, if_false]
        split
        next hblank => exact .skip hexit hblank
        next hspoken => exact .run hexit hspoken
    | awaiting token pending =>
        rw [hear_awaiting hexit]
        rcases interpreter.supplyDefinition_cases token (lineTokens input) with
          ⟨fault, htyped, hrefused⟩ | ⟨symbol, hanswer, hplain, hunpriced⟩
        · rw [answerMissing_of_refused htyped hrefused]
          exact .reject hexit hrefused
        · rw [hanswer, answerMissing_of_free symbol hplain hunpriced]
          exact .accept hexit hanswer hplain hunpriced

theorem runStatement_eq {tokens : List String} {outcome : Outcome} {next : Interpreter}
    (h : interpreter.execute tokens = (outcome, next)) :
    runStatement interpreter tokens =
      Heard.after [.note s!"Statement run: {Text.joinWords tokens}"]
        (takeOutcome outcome next tokens) := by
  unfold runStatement
  rw [h]

theorem interpreter_takeOutcome (outcome : Outcome) (tokens : List String) :
    (takeOutcome outcome interpreter tokens).dialogue.interpreter = interpreter := by
  unfold takeOutcome takeReply takeFault ask
  repeat' split
  all_goals rfl

/-- Only a statement that stops at a token leaves a dialogue that is not ready. -/
theorem stage_takeOutcome {outcome : Outcome}
    (houtcome : ∀ token, outcome ≠ .replied (.missing token)) (tokens : List String) :
    (takeOutcome outcome interpreter tokens).dialogue.stage = .ready := by
  cases outcome with
  | zeroQuantity => rfl
  | refused fault =>
      simp only [takeOutcome, takeFault]
      split
      · rfl
      · rfl
  | replied reply =>
      cases reply with
      | learned | answer => rfl
      | missing token => exact absurd rfl (houtcome token)

end Dialogue
end RomanTrade
