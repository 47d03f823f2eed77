import RomanTrade.Proofs.LineReplies

/-!
# What a dialogue records

On account of a line a dialogue takes or rejects an answer, and runs a statement, for the first time
or again.  Each of these events has its records.  All of them are meant for the log file, and none
takes up more than one line.
-/

namespace RomanTrade

/-- What is recorded of an outcome, for a statement of these tokens. -/
def Outcome.records (tokens : List String) : Outcome → List Message
  | .replied (.learned note) => [.note note]
  | .replied (.answer text) => [.reply text]
  | .replied (.missing token) => [.reply (missingPrompt token)]
  | .refused fault =>
    Dialogue.badSymbolRemark tokens ++ Dialogue.numeralRemark tokens fault ++
      [.refusal fault.message]
  | .zeroQuantity => []

namespace Dialogue

inductive Event where
  /-- The question was answered by a definition, of which the note tells. -/
  | answered (note : String)
  /-- A line did not define the token that was asked for. -/
  | rejected (token : String) (fault : Fault)
  | executed (tokens : List String) (outcome : Outcome)
  deriving DecidableEq

/-- The records of an event, in order.  A statement is recorded before its outcome. -/
def Event.records : Event → List Message
  | answered note => [.note note]
  | rejected token fault =>
    [.remark s!"Rejected definition for '{token}': {fault.message}", .reply (missingPrompt token)]
  | executed tokens outcome =>
    .note s!"Statement run: {Text.joinWords tokens}" :: outcome.records tokens

def execution (interpreter : Interpreter) (tokens : List String) : Event :=
  .executed tokens (interpreter.execute tokens).1

/-- What a line makes a dialogue do.  A taken answer is followed by the statement that waited. -/
def events (dialogue : Dialogue) (input : String) : List Event :=
  if isExit (Text.trim input) then []
  else
    match dialogue.stage with
    | .ready =>
      if (lineTokens input).isEmpty then []
      else [execution dialogue.interpreter (lineTokens input)]
    | .awaiting token pending =>
      match dialogue.interpreter.supplyDefinition token (lineTokens input) with
      | (.replied (.learned note), next) => [.answered note, execution next pending]
      | (.refused fault, _) => [.rejected token fault]
      | _ => []

/-- What lines make a dialogue do, until a statement collapses it. -/
def eventsAll (dialogue : Dialogue) : List String → List Event
  | [] => []
  | input :: rest =>
    dialogue.events input ++
      if (dialogue.hear input).signal = .collapse then []
      else (dialogue.hear input).dialogue.eventsAll rest

theorem messages_runStatement (interpreter : Interpreter) (tokens : List String) :
    (runStatement interpreter tokens).messages = (execution interpreter tokens).records := by
  cases hexecute : interpreter.execute tokens with
  | mk outcome next =>
    rw [runStatement_eq hexecute, Heard.messages_after, execution, hexecute]
    cases outcome with
    | zeroQuantity => rfl
    | replied reply => cases reply <;> rfl
    | refused fault =>
        have htyped := Interpreter.isUserFault_of_execute hexecute
        simp [takeOutcome, takeFault, htyped, Event.records, Outcome.records]

theorem messages_hear (dialogue : Dialogue) (input : String) :
    (dialogue.hear input).messages = (dialogue.events input).flatMap Event.records := by
  have hhears := dialogue.hear_hears input
  generalize dialogue.hear input = heard at hhears
  unfold events
  cases hhears with
  | leave hasks =>
      rw [if_pos hasks]
      rfl
  | skip hstays hblank =>
      simp only [hstays, hblank, Bool.false_eq_true, if_false, List.isEmpty_nil, if_true]
      rfl
  | run hstays hspoken =>
      simp only [hstays, Bool.false_eq_true, if_false, List.isEmpty_iff, hspoken]
      rw [messages_runStatement, List.flatMap_singleton]
  | reject hstays hrefused =>
      simp only [hstays, hrefused, Bool.false_eq_true, if_false]
      rfl
  | @accept interpreter token pending symbol hstays hanswer hplain hunpriced =>
      have hlearned := interpreter.learnSymbol_of_free ⟨token, symbol⟩ hplain hunpriced
      simp only [hstays, Bool.false_eq_true, if_false, hanswer,
        Interpreter.supplyDefinition_definition, hlearned]
      rw [Heard.messages_after, messages_runStatement, List.flatMap_cons, List.flatMap_singleton]
      rfl

theorem messages_hearAll (dialogue : Dialogue) (inputs : List String) :
    (dialogue.hearAll inputs).messages = (dialogue.eventsAll inputs).flatMap Event.records := by
  induction inputs generalizing dialogue with
  | nil => rfl
  | cons input rest ih =>
      rw [hearAll, Heard.andThen, eventsAll, List.flatMap_append, ← messages_hear]
      split
      next => rw [List.flatMap_nil, List.append_nil]
      next => rw [Heard.messages_after, ih]

theorem badSymbolRemark_recorded (tokens : List String) :
    ∀ record ∈ badSymbolRemark tokens, record.target.reachesFile = true := by
  intro record hrecord
  rw [badSymbolRemark_noted tokens record hrecord]
  rfl

theorem numeralRemark_recorded (tokens : List String) (fault : Fault) :
    ∀ record ∈ numeralRemark tokens fault, record.target.reachesFile = true := by
  intro record hrecord
  rw [numeralRemark_noted tokens fault record hrecord]
  rfl

/-- No record of an event is kept from the log file. -/
theorem Event.reachesFile_of_mem_records {event : Event} {record : Message}
    (h : record ∈ event.records) : record.target.reachesFile = true := by
  cases event with
  | answered note =>
      rw [List.mem_singleton.mp h]
      rfl
  | rejected token fault =>
      rcases List.mem_cons.mp h with rfl | h
      · rfl
      · rw [List.mem_singleton.mp h]
        rfl
  | executed tokens outcome =>
      rcases List.mem_cons.mp h with rfl | h
      · rfl
      · cases outcome with
        | zeroQuantity => cases h
        | replied reply =>
            cases reply with
            | learned | answer | missing =>
                rw [List.mem_singleton.mp h]
                rfl
        | refused fault =>
            simp only [Outcome.records, List.mem_append, List.mem_singleton] at h
            rcases h with (hsymbol | hnumeral) | rfl
            · exact badSymbolRemark_recorded tokens record hsymbol
            · exact numeralRemark_recorded tokens fault record hnumeral
            · rfl

end Dialogue

theorem Symbol.isLine_text (symbol : Symbol) : Text.IsLine symbol.text :=
  symbol.isWord_text.isLine

theorem Violation.isLine_message {violation : Violation}
    (hsymbols : ∀ c, violation ≠ .unknownCharacter c) : Text.IsLine violation.message := by
  cases violation with
  | empty => decide
  | unknownCharacter c => exact absurd rfl (hsymbols c)
  | repeatedSingle symbol => exact symbol.isLine_text.append (by decide)
  | runTooLong symbol => exact symbol.isLine_text.append (by decide)
  | runResumed symbol => exact symbol.isLine_text.append (by decide)
  | illegalSubtraction smaller larger =>
      exact (smaller.isLine_text.append (by decide)).append larger.isLine_text
  | doubleSubtraction larger => exact Text.IsLine.append (by decide) larger.isLine_text

namespace Numeral

theorem brokenRun?_ne_unknownCharacter (symbol : Symbol) (runs : List (Symbol × Nat)) (c : Char) :
    brokenRun? symbol runs ≠ some (.unknownCharacter c) := by
  induction runs with
  | nil => simp [brokenRun?]
  | cons run rest ih =>
      have hhead : headRun? symbol (run :: rest) ≠ some (.unknownCharacter c) := by
        unfold headRun?
        repeat' split
        all_goals simp
      simp [brokenRun?, Option.or_eq_some_iff, hhead, ih]

theorem brokenPair?_ne_unknownCharacter (before : Option Symbol) (numeral : Numeral) (c : Char) :
    brokenPair? before numeral ≠ some (.unknownCharacter c) := by
  fun_induction brokenPair? before numeral with
  | case1 before left right rest ih =>
      have hpair : pairFault? before left right ≠ some (.unknownCharacter c) := by
        unfold pairFault?
        repeat' split
        all_goals simp
      simp [Option.or_eq_some_iff, hpair, ih]
  | case2 => simp

/-- A numeral is made of symbols, so no character of it is unknown. -/
theorem violation?_ne_unknownCharacter (numeral : Numeral) (c : Char) :
    numeral.violation? ≠ some (.unknownCharacter c) := by
  unfold violation?
  split
  · simp
  · simp [Option.or_eq_some_iff, repeatedSingle?, List.findSome?_eq_some_iff,
      brokenRun?_ne_unknownCharacter, brokenPair?_ne_unknownCharacter]

end Numeral

namespace Interpreter

variable {interpreter : Interpreter} {tokens : List String}

theorem isLine_definitionNote {definition : Definition} (htoken : Text.IsLine definition.token)
    (previous : Option Symbol) : Text.IsLine (definitionNote definition previous) := by
  have hdefined : Text.IsLine s!"Defined {definition.token} as {definition.symbol.text}" :=
    ((Text.IsLine.append (by decide) htoken).append (by decide)).append
      definition.symbol.isLine_text
  have hredefined : Text.IsLine s!"Redefined {definition.token} as {definition.symbol.text}" :=
    ((Text.IsLine.append (by decide) htoken).append (by decide)).append
      definition.symbol.isLine_text
  unfold definitionNote
  split
  next old =>
    split
    · exact hdefined
    · exact ((hredefined.append (by decide)).append old.isLine_text).append (by decide)
  next => exact hdefined

theorem isLine_note_execute {note : String} (hwords : ∀ word ∈ tokens, Text.IsWord word)
    (hlearned : (interpreter.execute tokens).1 = .replied (.learned note)) : Text.IsLine note := by
  rcases interpreter.execute_cases tokens with ⟨fault, _, hrefused⟩ | ⟨statement, hread, hstep⟩
  · rw [hrefused] at hlearned
    cases hlearned
  · have hlayout := Statement.layout_of_ofTokens hread
    have hnames : ∀ name ∈ statement.names, Text.IsLine name :=
      fun name hname => (hwords name (hlayout.names_subset hname)).isLine
    rw [hlearned] at hstep
    generalize (interpreter.execute tokens).2 = next at hstep
    cases hstep with
    | learnSymbol => exact isLine_definitionNote (hnames _ List.mem_cons_self) _
    | learnPrice =>
        have hmaterial := hnames _ (Statement.mem_names_of_material? rfl)
        exact (((Text.IsLine.append (by decide) hmaterial).append (by decide)).append
          (Price.isLine_text _)).append (by decide)

theorem violation_of_execute {written : String} {violation : Violation}
    (hrefused : (interpreter.execute tokens).1 = .refused (.invalidNumeral written violation)) :
    ∃ numeral : Numeral, numeral.violation? = some violation := by
  unfold execute at hrefused
  split at hrefused
  next fault hread =>
    cases hrefused
    rcases Statement.eq_malformed_or_unrecognized_of_ofTokens hread with hother | hother
    · cases hother
    · cases hother
  next statement hread =>
    have hrefuses := refuses_of_run hrefused
    generalize hfault : Fault.invalidNumeral written violation = fault at hrefuses
    cases hrefuses with
    | invalidNumeral _ hbroken =>
        cases hfault
        exact ⟨_, hbroken⟩
    | _ => contradiction

theorem isLine_note_supplyDefinition {missing note : String} (hmissing : Text.IsLine missing)
    (htaken : (interpreter.supplyDefinition missing tokens).1 = .replied (.learned note)) :
    Text.IsLine note := by
  rcases interpreter.supplyDefinition_cases missing tokens with
    ⟨fault, _, hrefused⟩ | ⟨symbol, hanswer, hplain, hunpriced⟩
  · rw [hrefused] at htaken
    cases htaken
  · rw [hanswer, supplyDefinition_definition,
      interpreter.learnSymbol_of_free ⟨missing, symbol⟩ hplain hunpriced] at htaken
    cases htaken
    exact isLine_definitionNote hmissing _

theorem isLine_refusal_supplyDefinition {missing : String} {fault : Fault}
    (hwords : ∀ word ∈ tokens, Text.IsWord word)
    (hrefused : (interpreter.supplyDefinition missing tokens).1 = .refused fault) :
    Text.IsLine fault.message := by
  have hmalformed : Text.IsLine (Fault.malformed tokens).message :=
    .append (by decide) (.joinWords_of_words hwords)
  unfold supplyDefinition at hrefused
  split at hrefused
  next cause hread =>
    cases hrefused
    rw [Definition.eq_malformed_of_ofTokens hread]
    exact hmalformed
  next definition hread =>
    split at hrefused
    next =>
      apply (refuses_of_learnSymbol hrefused).isLine_message
      intro name hname
      rw [Definition.ofTokens_eq_ok_iff.mp hread] at hwords
      rw [List.mem_singleton.mp hname]
      exact (hwords definition.token List.mem_cons_self).isLine
    next =>
      cases hrefused
      exact hmalformed

end Interpreter

namespace Dialogue

variable {interpreter : Interpreter} {tokens : List String} {record : Message}

theorem isLine_badSymbolRemark (hwords : ∀ word ∈ tokens, Text.IsWord word)
    (h : record ∈ badSymbolRemark tokens) : Text.IsLine record.text := by
  unfold badSymbolRemark at h
  split at h
  next first copula written =>
    split at h
    next =>
      unfold Symbol.ofText at h
      cases hread : Symbol.ofText? written with
      | some symbol => simp [hread] at h
      | none =>
          simp only [hread, List.mem_singleton] at h
          have hwritten : Text.IsLine written := (hwords written (by simp)).isLine
          have hsymbols : Text.IsLine Symbol.letterList := by decide
          have hdetail :
              Text.IsLine s!"'{Text.trim written}'. Valid symbols: {Symbol.letterList}" :=
            ((Text.IsLine.append (by decide) hwritten.trim).append (by decide)).append hsymbols
          have hfault := Text.IsLine.append (by decide : Text.IsLine "not a roman symbol: ") hdetail
          rw [h]
          exact ((Text.IsLine.append (by decide) (.joinWords_of_words hwords)).append
            (by decide)).append hfault
    next => cases h
  next => cases h

theorem isLine_numeralRemark {fault : Fault} (hwords : ∀ word ∈ tokens, Text.IsWord word)
    (hrefused : (interpreter.execute tokens).1 = .refused fault)
    (h : record ∈ numeralRemark tokens fault) : Text.IsLine record.text := by
  unfold numeralRemark at h
  split at h
  next written violation =>
    obtain ⟨numeral, hbroken⟩ := Interpreter.violation_of_execute hrefused
    have hviolation : Text.IsLine violation.message := by
      apply Violation.isLine_message
      rintro c rfl
      exact numeral.violation?_ne_unknownCharacter c hbroken
    rw [List.mem_singleton.mp h]
    exact ((Text.IsLine.append (by decide) (.joinWords_of_words hwords)).append
      (by decide)).append hviolation
  next => cases h

theorem isLine_records_execution (hwords : ∀ word ∈ tokens, Text.IsWord word)
    (h : record ∈ (execution interpreter tokens).records) : Text.IsLine record.text := by
  have hreply : ∀ channel line, (interpreter.execute tokens).1.replyLine? = some (channel, line) →
      Text.IsLine line := fun _ _ => Interpreter.isLine_replyLine_execute hwords
  rcases List.mem_cons.mp h with rfl | h
  · exact .append (by decide) (.joinWords_of_words hwords)
  · cases houtcome : (interpreter.execute tokens).1 with
    | zeroQuantity =>
        rw [houtcome] at h
        cases h
    | replied reply =>
        rw [houtcome] at h hreply
        cases reply with
        | learned note =>
            rw [List.mem_singleton.mp h]
            exact Interpreter.isLine_note_execute hwords houtcome
        | answer text =>
            rw [List.mem_singleton.mp h]
            exact hreply .out text rfl
        | missing token =>
            rw [List.mem_singleton.mp h]
            exact hreply .out (missingPrompt token) rfl
    | refused fault =>
        rw [houtcome] at h hreply
        simp only [Outcome.records, List.mem_append, List.mem_singleton] at h
        rcases h with (hsymbol | hnumeral) | rfl
        · exact isLine_badSymbolRemark hwords hsymbol
        · exact isLine_numeralRemark hwords houtcome hnumeral
        · exact hreply .err fault.message rfl

theorem isLine_records_events {dialogue : Dialogue} (hsound : dialogue.Sound) {input : String}
    {event : Event} {record : Message} (hevent : event ∈ dialogue.events input)
    (h : record ∈ event.records) : Text.IsLine record.text := by
  obtain ⟨interpreter, stage⟩ := dialogue
  have hspoken : ∀ word ∈ lineTokens input, Text.IsWord word :=
    fun _ hword => isWord_of_mem_lineTokens hword
  unfold events at hevent
  split at hevent
  next => cases hevent
  next =>
    cases stage with
    | ready =>
        dsimp only at hevent
        split at hevent
        next => cases hevent
        next =>
          rw [List.mem_singleton.mp hevent] at h
          exact isLine_records_execution hspoken h
    | awaiting token pending =>
        -- The statement that waits was made of words too, and its missing token is one of them.
        obtain ⟨hwords, hstops⟩ := hsound token pending rfl
        have htoken := (Interpreter.stops_at_undefined hwords hstops).1.word.isLine
        dsimp only at hevent
        split at hevent
        next note next htaken =>
          have hnote := Interpreter.isLine_note_supplyDefinition htoken
            (congrArg Prod.fst htaken)
          rcases List.mem_cons.mp hevent with rfl | hevent
          · rw [List.mem_singleton.mp h]
            exact hnote
          · rw [List.mem_singleton.mp hevent] at h
            exact isLine_records_execution hwords h
        next fault _ hrefused =>
          have hfault := Interpreter.isLine_refusal_supplyDefinition hspoken
            (congrArg Prod.fst hrefused)
          rw [List.mem_singleton.mp hevent] at h
          rcases List.mem_cons.mp h with rfl | h
          · exact ((Text.IsLine.append (by decide) htoken).append (by decide)).append hfault
          · rw [List.mem_singleton.mp h]
            exact isLine_missingPrompt htoken
        next => cases hevent

/-- Whatever the lines are, a dialogue records all that happens in lines for the log file. -/
theorem isLine_records_eventsAll {dialogue : Dialogue} (hsound : dialogue.Sound)
    (inputs : List String) {event : Event} {record : Message}
    (hevent : event ∈ dialogue.eventsAll inputs) (h : record ∈ event.records) :
    Text.IsLine record.text := by
  induction inputs generalizing dialogue with
  | nil => cases hevent
  | cons input rest ih =>
      rcases List.mem_append.mp hevent with hnow | hlater
      · exact isLine_records_events hsound hnow h
      · split at hlater
        next => cases hlater
        next => exact ih (hear_sound hsound input) hlater

end Dialogue
end RomanTrade
