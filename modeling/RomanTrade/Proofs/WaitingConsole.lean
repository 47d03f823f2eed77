import RomanTrade.Application
import RomanTrade.Proofs.ConsoleOutput
import RomanTrade.Proofs.QuestionOrder

/-!
# What a session shows while it waits

While a session waits for a token, only a definition of this token is accepted.  Every other line,
apart from the one that asks to leave, changes nothing and prints the question once more.
-/

namespace RomanTrade

theorem not_lineFeed_mem_missingPrompt {token : String} (hword : Text.IsWord token) :
    '\n' ∉ (missingPrompt token).toList := by
  have hplain : '\n' ∉ token.toList := by
    intro hmem
    have hblank : Text.isBlank '\n' = true := by decide
    rw [hword.2 '\n' hmem] at hblank
    exact Bool.false_ne_true hblank
  have hprompt : missingPrompt token =
      "missing information / invalid input: How much is " ++ token ++ " ?" := rfl
  rw [hprompt]
  simp only [String.toList_append, List.mem_append, not_or]
  exact ⟨⟨by decide, hplain⟩, by decide⟩

namespace Dialogue

variable {interpreter : Interpreter} {token input : String} {pending : List String}

/-- An undefined token can be given any symbol, so the session refuses no definition of it. -/
theorem accepts_iff (hundefined : interpreter.session.Undefined token) :
    accepts ⟨interpreter, .awaiting token pending⟩ input = true ↔
      ∃ symbol : Symbol, lineTokens input = [token, Keyword.is.text, symbol.text] := by
  constructor
  · intro haccepts
    obtain ⟨symbol, hanswer, _⟩ := hear_of_accepts haccepts
    exact ⟨symbol, hanswer⟩
  · rintro ⟨symbol, hanswer⟩
    have hlearned :=
      interpreter.learnSymbol_of_free ⟨token, symbol⟩ hundefined.plain hundefined.unpriced
    simp [accepts, not_isExit_of_lineTokens hanswer, hanswer,
      Interpreter.supplyDefinition_definition, hlearned]

theorem hear_of_isExit {dialogue : Dialogue} (hasks : isExit (Text.trim input) = true) :
    dialogue.hear input = { signal := .finish, dialogue } := by
  unfold hear
  simp only [hasks, if_true]

/-- An answer is known afterwards, whatever the statement that waited comes to. -/
theorem get?_of_answer {statement : Statement} {symbol : Symbol}
    (hundefined : interpreter.session.Undefined token)
    (hread : Statement.ofTokens pending = .ok statement) (hmem : token ∈ statement.amount)
    (hanswer : lineTokens input = [token, Keyword.is.text, symbol.text]) :
    (hear ⟨interpreter, .awaiting token pending⟩ input).dialogue.interpreter.session.alphabet.get?
      token = some symbol := by
  have hstatement := Statement.ne_definition_of_mem_amount hmem
  rw [hear_answer hundefined pending hanswer, Heard.dialogue_after, interpreter_runStatement,
    Interpreter.alphabet_execute _ hread hstatement, Session.get?_alphabet_withSymbol, if_pos rfl]

/-- A line that is no answer is remarked on in the log file, and the question is asked again. -/
theorem hear_of_rejects (hundefined : interpreter.session.Undefined token)
    (hstays : isExit (Text.trim input) = false)
    (hrejects : accepts ⟨interpreter, .awaiting token pending⟩ input = false) :
    ∃ remark, hear ⟨interpreter, .awaiting token pending⟩ input =
      { messages := [.remark remark, .reply (missingPrompt token)]
        dialogue := ⟨interpreter, .awaiting token pending⟩ } := by
  have hhears := hear_hears ⟨interpreter, .awaiting token pending⟩ input
  generalize hear ⟨interpreter, .awaiting token pending⟩ input = heard at hhears
  cases hhears with
  | leave hexit => simp [hexit] at hstays
  | reject => exact ⟨_, rfl⟩
  | accept _ hanswer =>
      rw [(accepts_iff hundefined).mpr ⟨_, hanswer⟩] at hrejects
      simp at hrejects

theorem runStatement_noted (interpreter : Interpreter) (tokens : List String) :
    ∃ message ∈ (runStatement interpreter tokens).messages, message.target.reachesFile = true := by
  rw [runStatement_eq (Prod.eta _).symm, Heard.messages_after]
  exact ⟨.note s!"Statement run: {Text.joinWords tokens}", by simp, rfl⟩

/-- A line that leaves the dialogue as it was prints nothing or is noted in the log file first. -/
theorem hear_eq_self_or_noted (dialogue : Dialogue) (input : String) :
    (dialogue.hear input).dialogue = dialogue ∨
      ∃ message ∈ (dialogue.hear input).messages, message.target.reachesFile = true := by
  have hhears := dialogue.hear_hears input
  generalize dialogue.hear input = heard at hhears
  cases hhears with
  | leave | skip => exact .inl rfl
  | reject => exact .inl rfl
  | run => exact .inr (runStatement_noted _ _)
  | accept =>
      right
      obtain ⟨message, hmem, hnoted⟩ := runStatement_noted _ _
      rw [Heard.messages_after]
      exact ⟨message, List.mem_append_right _ hmem, hnoted⟩

end Dialogue

namespace Application

theorem start_of_missing {settingsPath : String} {desk : Desk}
    (hmissing : desk.files.hasPath settingsPath = false) (logsDirectory : String) :
    (start settingsPath logsDirectory : StateM Desk (Except Fault Application)).run desk =
      (.ok (ofSettings { path := settingsPath } logsDirectory), desk) := by
  have hlooked : (Host.pathExists settingsPath : StateM Desk Bool).run desk = (false, desk) :=
    congrArg (·, desk) hmissing
  have hloaded : (SettingsFile.loadOrDefault settingsPath :
      StateM Desk (Except Fault SettingsFile)).run desk = (.ok { path := settingsPath }, desk) := by
    unfold SettingsFile.loadOrDefault
    rw [Desk.run_bind_of_run hlooked]
    rfl
  unfold start
  rw [Desk.run_bind_of_run hloaded]
  rfl

/-- What is printed when a line has been read: the padding line below the prompt. -/
def spacing : String :=
  Screen.paddingLine ++ Screen.resetStyle

theorem visibleText_spacing : Screen.visibleText spacing = "\n" := by
  decide +kernel

theorem run_handle {app : Application} {input : String} {desk after : Desk} {heard : Heard}
    {journal : Journal} (hheard : app.dialogue.hear input = heard)
    (hrecorded : (app.journal.recordAll heard.messages : StateM Desk Journal).run
      (desk.write .out spacing) = (journal, after)) :
    (app.handle input : StateM Desk (Signal × Application)).run desk =
      ((heard.signal, { app with dialogue := heard.dialogue, journal }), after) := by
  subst hheard
  have hspaced : (Host.write .out spacing : StateM Desk Unit).run desk =
      ((), desk.write .out spacing) := rfl
  unfold handle
  rw [← spacing, Desk.run_bind_of_run hspaced, Desk.run_bind_of_run hrecorded]
  rfl

theorem dialogue_handle (app : Application) (input : String) (desk : Desk) :
    ((app.handle input : StateM Desk (Signal × Application)).run desk).1.2.dialogue =
      (app.dialogue.hear input).dialogue := by
  cases hrecorded : (app.journal.recordAll (app.dialogue.hear input).messages :
      StateM Desk Journal).run (desk.write .out spacing) with
  | mk journal after => rw [run_handle rfl hrecorded]

/-- An application that has been started and has heard lines.  The desk may have been changed
between two lines. -/
inductive Reached : Application → Prop where
  | start {settingsPath logsDirectory : String} {before after : Desk} {app : Application}
      (started : (start settingsPath logsDirectory : StateM Desk (Except Fault Application)).run
        before = (.ok app, after)) : Reached app
  | render {app : Application} (reached : Reached app) (desk : Desk) :
      Reached ((app.render : StateM Desk Application).run desk).1
  | handle {app : Application} (reached : Reached app) (input : String) (desk : Desk) :
      Reached ((app.handle input : StateM Desk (Signal × Application)).run desk).1.2

/-- The dialogue waits only for a token at which its statement stops, and by then the log file has
been asked for. -/
structure Steady (app : Application) : Prop where
  sound : app.dialogue.Sound
  settled : ∀ token pending, app.dialogue.stage = .awaiting token pending → app.journal.Settled

theorem exists_settings_of_start {settingsPath logsDirectory : String} {before after : Desk}
    {app : Application}
    (h : (start settingsPath logsDirectory : StateM Desk (Except Fault Application)).run before =
      (.ok app, after)) : ∃ settingsFile, app = ofSettings settingsFile logsDirectory := by
  unfold start at h
  cases hloaded : (SettingsFile.loadOrDefault settingsPath :
      StateM Desk (Except Fault SettingsFile)).run before with
  | mk loaded opened =>
    rw [Desk.run_bind_of_run hloaded] at h
    cases loaded with
    | error fault => cases h
    | ok settingsFile =>
        cases h
        exact ⟨settingsFile, rfl⟩

theorem Steady.handle {app : Application} (hsteady : app.Steady) (input : String) (desk : Desk) :
    ((app.handle input : StateM Desk (Signal × Application)).run desk).1.2.Steady := by
  have hsound := Dialogue.hear_sound hsteady.sound input
  have hkept := app.dialogue.hear_eq_self_or_noted input
  cases hheard : app.dialogue.hear input with
  | mk messages signal dialogue =>
    rw [hheard] at hsound hkept
    cases hrecorded : (app.journal.recordAll messages : StateM Desk Journal).run
        (desk.write .out spacing) with
    | mk journal after =>
      rw [run_handle hheard hrecorded]
      constructor
      · exact hsound
      · intro token pending hwaits
        have hsettled : app.journal.Settled ∨
            ∃ message ∈ messages, message.target.reachesFile = true := by
          refine hkept.imp_left fun hsame => hsteady.settled token pending ?_
          rw [← hsame]
          exact hwaits
        have hafter := Journal.settled_recordAll hsettled (desk.write .out spacing)
        rw [hrecorded] at hafter
        exact hafter

theorem steady_of_reached {app : Application} (hreached : app.Reached) : app.Steady := by
  induction hreached with
  | start started =>
      obtain ⟨settingsFile, rfl⟩ := exists_settings_of_start started
      constructor
      · exact Dialogue.sound_of_ready rfl
      · intro token pending hwaits
        cases hwaits
  | render _ _ ih =>
      constructor
      · exact ih.sound
      · exact ih.settled
  | handle _ input desk ih => exact ih.handle input desk

theorem handle_of_isExit {app : Application} {input : String}
    (hasks : Dialogue.isExit (Text.trim input) = true) (desk : Desk) :
    (app.handle input : StateM Desk (Signal × Application)).run desk =
      ((.finish, app), desk.write .out spacing) :=
  run_handle (Dialogue.hear_of_isExit hasks) rfl

/-- Once the log file has been asked for, a question that is asked again is all that is printed. -/
theorem handle_of_question {app : Application} {input remark question : String}
    (hsettled : app.journal.Settled)
    (hheard : app.dialogue.hear input =
      { messages := [.remark remark, .reply question], dialogue := app.dialogue }) (desk : Desk) :
    ∃ files clock, (app.handle input : StateM Desk (Signal × Application)).run desk =
      ((.proceed, app),
        { desk with
          files, toClock := clock
          out := desk.out ++ (spacing ++ (question ++ "\n")) }) := by
  obtain ⟨files, clock, hrecorded⟩ := Journal.run_recordAll_of_settled hsettled
    [.remark remark, .reply question] (desk.write .out spacing)
  refine ⟨files, clock, ?_⟩
  rw [run_handle hheard hrecorded]
  simp [Desk.printAll, Message.printed, Message.remark, Message.reply, Target.reachesConsole,
    Level.channel, Desk.write, String.append_assoc]

/-- A waiting application that hears a line accepts exactly the definitions of its token; asked to
leave, it finishes as it is; any other line prints the question again, below an empty line, and
changes nothing. -/
theorem waiting_accepts_only_its_answer {app next : Application} (hreached : app.Reached)
    {token input : String} {pending : List String} {signal : Signal} {desk after : Desk}
    (hwaits : app.dialogue.stage = .awaiting token pending)
    (hheard : (app.handle input : StateM Desk (Signal × Application)).run desk =
      ((signal, next), after)) :
    (app.dialogue.accepts input = true ↔
      ∃ symbol : Symbol, Dialogue.lineTokens input = [token, "is", symbol.text]) ∧
    (∀ symbol : Symbol, Dialogue.lineTokens input = [token, "is", symbol.text] →
      next.dialogue.interpreter.session.alphabet.get? token = some symbol) ∧
    (Dialogue.isExit (Text.trim input) = true →
      signal = .finish ∧ next = app ∧ after = desk.write .out spacing) ∧
    (Dialogue.isExit (Text.trim input) = false → app.dialogue.accepts input = false →
      signal = .proceed ∧ next = app ∧
        ∃ files clock, after = { desk with
          files, toClock := clock
          out := desk.out ++ (spacing ++ (missingPrompt token ++ "\n")) }) ∧
    '\n' ∉ (missingPrompt token).toList ∧ Screen.visibleText spacing = "\n" := by
  obtain ⟨hsound, hsettles⟩ := steady_of_reached hreached
  have hsettled := hsettles token pending hwaits
  obtain ⟨hwords, hstops⟩ := hsound token pending hwaits
  obtain ⟨hundefined, statement, hread, hmem⟩ := Interpreter.stops_at_undefined hwords hstops
  have hdialogue := app.dialogue_handle input desk
  rw [hheard] at hdialogue
  have hprompt := not_lineFeed_mem_missingPrompt hundefined.word
  generalize hnow : app.dialogue = dialogue at *
  obtain ⟨interpreter, stage⟩ := dialogue
  obtain rfl : stage = .awaiting token pending := hwaits
  refine ⟨Dialogue.accepts_iff hundefined, ?_, ?_, ?_, hprompt, visibleText_spacing⟩
  · intro symbol hanswer
    rw [hdialogue]
    exact Dialogue.get?_of_answer hundefined hread hmem hanswer
  · intro hasks
    rw [handle_of_isExit hasks] at hheard
    cases hheard
    exact ⟨rfl, rfl, rfl⟩
  · intro hstays hrejects
    obtain ⟨remark, hasked⟩ := Dialogue.hear_of_rejects hundefined hstays hrejects
    rw [← hnow] at hasked
    obtain ⟨files, clock, hprinted⟩ := handle_of_question hsettled hasked desk
    rw [hprinted] at hheard
    cases hheard
    exact ⟨rfl, rfl, files, clock, rfl⟩

theorem prok_is_no_answer_for_glob :
    let desk : Desk := { time := "2026-01-01 12:00:00", stamp := "20260101-120000" }
    ∃ asked : Application, asked.Reached ∧
      asked.dialogue.stage = .awaiting "glob" ["how", "much", "is", "glob", "?"] ∧
      ∃ after, (asked.handle "prok is I" : StateM Desk (Signal × Application)).run desk =
          ((.proceed, asked), after) ∧
        after.out = spacing ++ (missingPrompt "glob" ++ "\n") ∧ after.err = "" := by
  intro desk
  have hmissing : desk.files.hasPath "config.json" = false := by decide +kernel
  have hreached := Reached.handle (.start (start_of_missing hmissing "logs"))
    "how much is glob ?" desk
  have hdialogue := dialogue_handle (ofSettings { path := "config.json" } "logs")
    "how much is glob ?" desk
  generalize ((handle _ _ : StateM Desk (Signal × Application)).run desk).1.2 = asked
    at hreached hdialogue
  have hwaits : asked.dialogue.stage = .awaiting "glob" ["how", "much", "is", "glob", "?"] := by
    rw [hdialogue]
    decide
  have hrejects : asked.dialogue.accepts "prok is I" = false := by
    rw [hdialogue]
    decide
  cases hheard : (asked.handle "prok is I" : StateM Desk (Signal × Application)).run desk with
  | mk result after =>
    obtain ⟨signal, next⟩ := result
    obtain ⟨_, _, _, hprints, _⟩ := waiting_accepts_only_its_answer hreached hwaits hheard
    obtain ⟨rfl, rfl, files, clock, rfl⟩ := hprints (by decide) hrejects
    exact ⟨next, hreached, hwaits, _, hheard, String.empty_append, rfl⟩

end Application
end RomanTrade
