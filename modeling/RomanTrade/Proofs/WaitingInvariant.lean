import RomanTrade.Proofs.DialogueRun
import RomanTrade.Proofs.StatementFrame

/-!
# What a dialogue waits for

A dialogue waits only for a token at which the statement that it keeps still stops.  Such a token
is a plain word that stands for nothing, so each of the seven symbols can be given to it, and the
question that the dialogue asks can always be answered.
-/

namespace RomanTrade

/-- A word that stands for nothing in a session and may be given any symbol. -/
structure Session.Undefined (session : Session) (token : String) : Prop where
  word : Text.IsWord token
  plain : Keyword.isReserved token = false
  tokenless : session.alphabet.contains token = false
  unpriced : session.prices.contains token = false
  foreign : ∃ c ∈ token.toList, ∀ symbol : Symbol, symbol.letter ≠ c

def definitionLine (token : String) (symbol : Symbol) : String :=
  s!"{token} is {symbol.text}"

theorem Symbol.not_hasGluedQuestion_text (symbol : Symbol) :
    ¬ Text.HasGluedQuestion symbol.text := by
  rintro ⟨stem, hstem, htext⟩
  have hletters : [symbol.letter] = stem.toList ++ ['?'] := by
    have hsame := congrArg String.toList htext
    simpa [text] using hsame
  have hlength := congrArg List.length hletters
  simp only [List.length_append, List.length_singleton] at hlength
  have hnil : stem.toList = [] := List.eq_nil_of_length_eq_zero (by omega)
  exact hstem (String.toList_eq_nil_iff.mp hnil)

theorem Symbol.isWord_text (symbol : Symbol) : Text.IsWord symbol.text := by
  cases symbol <;> decide

namespace Statement

theorem ne_definition_of_mem_amount {statement : Statement} {token : String}
    (h : token ∈ statement.amount) (definition : Definition) :
    statement ≠ .definition definition := by
  rintro rfl
  simp [amount] at h

end Statement

namespace Interpreter

/-- A statement stops only at an undefined token of its amount. -/
theorem stops_at_undefined {interpreter next : Interpreter} {tokens : List String}
    {token : String} (hwords : ∀ word ∈ tokens, Text.IsWord word)
    (hstops : interpreter.execute tokens = (.replied (.missing token), next)) :
    interpreter.session.Undefined token ∧
      ∃ statement, Statement.ofTokens tokens = .ok statement ∧ token ∈ statement.amount := by
  rcases interpreter.execute_cases tokens with ⟨fault, _, hrefused⟩ | ⟨statement, hread, hstep⟩
  · rw [hrefused] at hstops
    simp at hstops
  · rw [hstops] at hstep
    cases hstep with
    | wait hmissing =>
        obtain ⟨hmem, hunpriced, hunread⟩ := Session.mem_of_evaluate_eq_missing hmissing
        obtain ⟨htokenless, hforeign⟩ := Alphabet.reading?_eq_none_iff.mp hunread
        have hlayout := Statement.layout_of_ofTokens hread
        have hword := hwords token (hlayout.amount_subset hmem)
        refine ⟨?_, statement, hread, hmem⟩
        constructor
        · exact hword
        · exact hlayout.amount_plain token hmem
        · exact htokenless
        · exact hunpriced
        · exact hforeign.resolve_left hword.1

/-- Only a definition writes to the alphabet. -/
theorem Step.alphabet_eq {before after : Interpreter} {statement : Statement} {outcome : Outcome}
    (hstep : Step before statement outcome after)
    (hstatement : ∀ definition, statement ≠ .definition definition) :
    after.session.alphabet = before.session.alphabet := by
  cases hstep with
  | refuse | wait | answerValue | answerPrice | collapse => rfl
  | learnPrice => rfl
  | @learnSymbol definition => exact absurd rfl (hstatement definition)

theorem alphabet_execute (interpreter : Interpreter) {tokens : List String} {statement : Statement}
    (hread : Statement.ofTokens tokens = .ok statement)
    (hstatement : ∀ definition, statement ≠ .definition definition) :
    (interpreter.execute tokens).2.session.alphabet = interpreter.session.alphabet := by
  have hstep := interpreter.run_step statement
  unfold execute
  rw [hread]
  exact hstep.alphabet_eq hstatement

end Interpreter

namespace Dialogue

theorem definitionLine_eq_joinWords (token : String) (symbol : Symbol) :
    definitionLine token symbol = Text.joinWords [token, Keyword.is.text, symbol.text] := by
  have hend : Text.joinWords [symbol.text] = symbol.text := String.intercalate_singleton
  have hcopula : " is " = " " ++ Keyword.is.text ++ " " := by decide
  rw [Text.joinWords_cons_cons, Text.joinWords_cons_cons, hend, definitionLine]
  change token ++ " is " ++ symbol.text = _
  rw [hcopula]
  simp only [String.append_assoc]

theorem isWord_of_mem_definition {token : String} (hword : Text.IsWord token) (symbol : Symbol) :
    ∀ word ∈ [token, Keyword.is.text, symbol.text], Text.IsWord word := by
  have his : Text.IsWord Keyword.is.text := by decide
  simpa using ⟨hword, his, symbol.isWord_text⟩

theorem lineTokens_definitionLine {token : String} (hword : Text.IsWord token) (symbol : Symbol) :
    lineTokens (definitionLine token symbol) = [token, Keyword.is.text, symbol.text] := by
  unfold lineTokens
  rw [Text.tokenize_trim, definitionLine_eq_joinWords]
  refine Text.tokenize_joinWords (isWord_of_mem_definition hword symbol) ?_
  intro last hlast
  have hlast : symbol.text = last := by simpa using hlast
  exact hlast ▸ symbol.not_hasGluedQuestion_text

/-- A line that asks to leave has two tokens at most. -/
theorem not_isExit_of_lineTokens {input first second third : String}
    (htokens : lineTokens input = [first, second, third]) : isExit (Text.trim input) = false := by
  rw [Bool.eq_false_iff]
  intro hexit
  unfold lineTokens Text.tokenize at htokens
  rw [words_of_isExit hexit] at htokens
  unfold Text.splitQuestion at htokens
  split at htokens
  · simp at htokens
  · simp at htokens

/-- The statement that a dialogue keeps stops at the token that the dialogue asks for. -/
def Sound (dialogue : Dialogue) : Prop :=
  ∀ token pending, dialogue.stage = .awaiting token pending →
    (∀ word ∈ pending, Text.IsWord word) ∧
      dialogue.interpreter.execute pending = (.replied (.missing token), dialogue.interpreter)

theorem sound_of_ready {dialogue : Dialogue} (hready : dialogue.stage = .ready) :
    dialogue.Sound := by
  intro token pending hwaits
  rw [hready] at hwaits
  contradiction

/-- A dialogue that has run a statement is ready, or waits for the token at which it stops. -/
theorem stage_runStatement (interpreter : Interpreter) (tokens : List String) :
    (runStatement interpreter tokens).dialogue.stage = .ready ∨
      ∃ token, interpreter.execute tokens = (.replied (.missing token), interpreter) ∧
        (runStatement interpreter tokens).dialogue = ⟨interpreter, .awaiting token tokens⟩ := by
  cases hexecute : interpreter.execute tokens with
  | mk outcome next =>
    rw [runStatement_eq hexecute, Heard.dialogue_after]
    by_cases hstops : ∃ token, outcome = .replied (.missing token)
    · obtain ⟨token, rfl⟩ := hstops
      obtain rfl := Interpreter.eq_of_execute_eq_missing hexecute
      exact .inr ⟨token, rfl, rfl⟩
    · exact .inl (stage_takeOutcome (not_exists.mp hstops) tokens)

theorem runStatement_sound (interpreter : Interpreter) {tokens : List String}
    (hwords : ∀ word ∈ tokens, Text.IsWord word) :
    (runStatement interpreter tokens).dialogue.Sound := by
  rcases stage_runStatement interpreter tokens with hready | ⟨token, hstops, hwaits⟩
  · exact sound_of_ready hready
  · intro other pending hother
    rw [hwaits] at hother ⊢
    cases hother
    exact ⟨hwords, hstops⟩

theorem hear_sound {dialogue : Dialogue} (hsound : dialogue.Sound) (input : String) :
    (dialogue.hear input).dialogue.Sound := by
  have hhears := dialogue.hear_hears input
  generalize dialogue.hear input = heard at hhears
  cases hhears with
  | leave | skip => exact hsound
  | reject =>
      rw [Heard.dialogue_after]
      exact hsound
  | run => exact runStatement_sound _ fun _ hword => isWord_of_mem_lineTokens hword
  | @accept interpreter token pending =>
      rw [Heard.dialogue_after]
      exact runStatement_sound _ (hsound token pending rfl).1

theorem sound_of_reachable {dialogue : Dialogue} (hreachable : dialogue.Reachable) :
    dialogue.Sound := by
  obtain ⟨policy, inputs, rfl⟩ := hreachable
  refine hearAll_preserves Sound ?_ (sound_of_ready rfl) inputs
  intro dialogue input hsound
  exact hear_sound hsound input

/-- A line that gives the missing token a symbol is learned, and the statement that waited is run
with the symbol known. -/
theorem hear_answer {interpreter : Interpreter} {token input : String} {symbol : Symbol}
    (hundefined : interpreter.session.Undefined token) (pending : List String)
    (hanswer : lineTokens input = [token, Keyword.is.text, symbol.text]) :
    hear ⟨interpreter, .awaiting token pending⟩ input =
      Heard.after [.note s!"Defined {token} as {symbol.text}"]
        (runStatement
          { interpreter with session := interpreter.session.withSymbol ⟨token, symbol⟩ }
          pending) := by
  have hfirst : interpreter.session.alphabet.get? token = none := by
    have htokenless := hundefined.tokenless
    unfold Lexicon.contains at htokenless
    simpa using htokenless
  rw [hear_awaiting (not_isExit_of_lineTokens hanswer), hanswer,
    answerMissing_of_free symbol hundefined.plain hundefined.unpriced, hfirst]
  simp only [Interpreter.definitionNote]

theorem hear_definitionLine {interpreter : Interpreter} {token : String}
    (hundefined : interpreter.session.Undefined token) (pending : List String) (symbol : Symbol) :
    hear ⟨interpreter, .awaiting token pending⟩ (definitionLine token symbol) =
      Heard.after [.note s!"Defined {token} as {symbol.text}"]
        (runStatement
          { interpreter with session := interpreter.session.withSymbol ⟨token, symbol⟩ }
          pending) :=
  hear_answer hundefined pending (lineTokens_definitionLine hundefined.word symbol)

theorem interpreter_runStatement (interpreter : Interpreter) (tokens : List String) :
    (runStatement interpreter tokens).dialogue.interpreter = (interpreter.execute tokens).2 := by
  cases hexecute : interpreter.execute tokens with
  | mk outcome next =>
    rw [runStatement_eq hexecute, Heard.dialogue_after, interpreter_takeOutcome]

/-- A dialogue that waits keeps a price fact or a query, which still stops at the token that the
dialogue asks for.  The token is undefined, so a line that gives it any symbol is learned. -/
theorem waiting_dialogues_can_be_answered {dialogue : Dialogue} {token : String}
    {pending : List String} (hreachable : dialogue.Reachable)
    (hwaits : dialogue.stage = .awaiting token pending) :
    (∃ statement, Statement.ofTokens pending = .ok statement ∧
        (∀ definition, statement ≠ .definition definition) ∧ token ∈ statement.amount) ∧
      dialogue.interpreter.execute pending = (.replied (.missing token), dialogue.interpreter) ∧
      dialogue.interpreter.session.Undefined token ∧
      ∀ symbol : Symbol,
        dialogue.hear (definitionLine token symbol) =
            Heard.after [.note s!"Defined {token} as {symbol.text}"]
              (runStatement
                { dialogue.interpreter with
                  session := dialogue.interpreter.session.withSymbol ⟨token, symbol⟩ }
                pending) ∧
          (dialogue.hear (definitionLine token symbol)).dialogue.interpreter.session.alphabet.get?
            token = some symbol := by
  obtain ⟨interpreter, stage⟩ := dialogue
  obtain rfl : stage = .awaiting token pending := hwaits
  obtain ⟨hwords, hstops⟩ := sound_of_reachable hreachable token pending rfl
  obtain ⟨hundefined, statement, hread, hmem⟩ := Interpreter.stops_at_undefined hwords hstops
  have hstatement := Statement.ne_definition_of_mem_amount hmem
  refine ⟨⟨statement, hread, hstatement, hmem⟩, hstops, hundefined, ?_⟩
  intro symbol
  have hheard := hear_definitionLine hundefined pending symbol
  refine ⟨hheard, ?_⟩
  rw [hheard, Heard.dialogue_after, interpreter_runStatement,
    Interpreter.alphabet_execute _ hread hstatement, Session.get?_alphabet_withSymbol, if_pos rfl]

theorem waiting_for_glob_can_be_answered :
    let dialogue := ((fresh .allowFractional).hearAll ["how much is glob ?"]).dialogue
    dialogue.stage = .awaiting "glob" ["how", "much", "is", "glob", "?"] ∧
      dialogue.interpreter.session.Undefined "glob" :=
  have hwaits : ((fresh .allowFractional).hearAll ["how much is glob ?"]).dialogue.stage =
      .awaiting "glob" ["how", "much", "is", "glob", "?"] := by decide
  ⟨hwaits, (waiting_dialogues_can_be_answered ⟨_, _, rfl⟩ hwaits).2.2.1⟩

end Dialogue
end RomanTrade
