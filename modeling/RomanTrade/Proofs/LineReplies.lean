import RomanTrade.Proofs.LogFileWarning
import RomanTrade.Proofs.Refusal
import RomanTrade.Proofs.SessionEnding
import RomanTrade.Proofs.StatementNames

/-!
# The reply to a line

Of all messages that a line leads to, one at most is meant for the console: the answer, the question
or the refusal.  It is made of words of the line, or of the statement that waited, so it never takes
up more than one line.
-/

namespace RomanTrade

/-- The line that tells the user of an outcome, with its channel.  A fact that is learned is not
told. -/
def Outcome.replyLine? : Outcome → Option (Channel × String)
  | .replied (.learned _) => none
  | .replied (.answer text) => some (.out, text)
  | .replied (.missing token) => some (.out, missingPrompt token)
  | .refused fault => some (.err, fault.message)
  | .zeroQuantity => none

namespace Desk

variable {messages : List Message}

theorem printAll_cons_of_noted {first : Message} (hnoted : first.target = .file)
    (rest : List Message) (desk : Desk) : desk.printAll (first :: rest) = desk.printAll rest := by
  rw [printAll_cons, printAll_singleton, hnoted]
  rfl

/-- Messages that are only meant for the log file print nothing. -/
theorem printAll_of_noted (hnoted : ∀ message ∈ messages, message.target = .file) (desk : Desk) :
    desk.printAll messages = desk := by
  induction messages with
  | nil => exact desk.printAll_nil
  | cons first rest ih =>
      rw [List.forall_mem_cons] at hnoted
      rw [printAll_cons_of_noted hnoted.1, ih hnoted.2]

/-- The desk after a line has been shown, if there is one to show. -/
def writeLine? (desk : Desk) : Option (Channel × String) → Desk
  | none => desk
  | some (channel, line) => desk.write channel (line ++ "\n")

end Desk

namespace Dialogue

/-- The line that a dialogue replies to a line of input with, if it does.  A line that is no answer
to its question is replied to with the question, and an answer with the reply to the statement that
waited. -/
def replyLine? (dialogue : Dialogue) (input : String) : Option (Channel × String) :=
  if isExit (Text.trim input) then none
  else
    match dialogue.stage with
    | .ready =>
      if (lineTokens input).isEmpty then none
      else (dialogue.interpreter.execute (lineTokens input)).1.replyLine?
    | .awaiting token pending =>
      match dialogue.interpreter.supplyDefinition token (lineTokens input) with
      | (.replied _, next) => (next.execute pending).1.replyLine?
      | (.refused _, _) => some (.out, missingPrompt token)
      | (.zeroQuantity, _) => none

theorem badSymbolRemark_noted (tokens : List String) :
    ∀ message ∈ badSymbolRemark tokens, message.target = .file := by
  unfold badSymbolRemark
  repeat' split
  all_goals simp [Message.remark]

theorem numeralRemark_noted (tokens : List String) (fault : Fault) :
    ∀ message ∈ numeralRemark tokens fault, message.target = .file := by
  unfold numeralRemark
  split
  · simp [Message.remark]
  · simp

theorem printAll_runStatement (interpreter : Interpreter) (tokens : List String) (desk : Desk) :
    desk.printAll (runStatement interpreter tokens).messages =
      desk.writeLine? (interpreter.execute tokens).1.replyLine? := by
  cases hexecute : interpreter.execute tokens with
  | mk outcome next =>
    rw [runStatement_eq hexecute, Heard.messages_after, List.singleton_append,
      Desk.printAll_cons_of_noted rfl]
    cases outcome with
    | zeroQuantity => exact desk.printAll_nil
    | replied reply =>
        cases reply with
        | learned note =>
            change desk.printAll [.note note] = desk
            rw [Desk.printAll_cons_of_noted rfl, Desk.printAll_nil]
        | answer text => exact desk.printAll_singleton _
        | missing token => exact desk.printAll_singleton _
    | refused fault =>
        have htyped := Interpreter.isUserFault_of_execute hexecute
        simp only [takeOutcome, takeFault, htyped, if_true]
        rw [Desk.printAll_append, Desk.printAll_append,
          Desk.printAll_of_noted (badSymbolRemark_noted tokens),
          Desk.printAll_of_noted (numeralRemark_noted tokens fault)]
        exact desk.printAll_singleton _

/-- The messages of a line print the reply to it, and nothing else. -/
theorem printAll_hear (dialogue : Dialogue) (input : String) (desk : Desk) :
    desk.printAll (dialogue.hear input).messages = desk.writeLine? (dialogue.replyLine? input) := by
  have hhears := dialogue.hear_hears input
  generalize dialogue.hear input = heard at hhears
  unfold replyLine?
  cases hhears with
  | leave hasks =>
      rw [if_pos hasks]
      exact desk.printAll_nil
  | skip hstays hblank =>
      simp only [hstays, hblank, Bool.false_eq_true, if_false, List.isEmpty_nil, if_true]
      exact desk.printAll_nil
  | run hstays hspoken =>
      simp only [hstays, Bool.false_eq_true, if_false, List.isEmpty_iff, hspoken]
      exact printAll_runStatement _ _ desk
  -- From here on the remark or note for the log file comes first and prints nothing.
  | reject hstays hrefused =>
      simp only [hstays, hrefused, Bool.false_eq_true, if_false]
      rw [Heard.messages_after, List.singleton_append, Desk.printAll_cons_of_noted rfl]
      exact desk.printAll_singleton _
  | @accept interpreter token pending symbol hstays hanswer hplain hunpriced =>
      have hlearned := interpreter.learnSymbol_of_free ⟨token, symbol⟩ hplain hunpriced
      simp only [hstays, Bool.false_eq_true, if_false, hanswer,
        Interpreter.supplyDefinition_definition, hlearned]
      rw [Heard.messages_after, List.singleton_append, Desk.printAll_cons_of_noted rfl]
      exact printAll_runStatement _ _ desk

/-- A line leads to no message, or to a first one that is only meant for the log file. -/
theorem messages_hear_cases (dialogue : Dialogue) (input : String) :
    (dialogue.hear input).messages = [] ∨
      ∃ first rest, (dialogue.hear input).messages = first :: rest ∧ first.target = .file := by
  have hhears := dialogue.hear_hears input
  generalize dialogue.hear input = heard at hhears
  cases hhears with
  | leave | skip => exact .inl rfl
  | reject => exact .inr ⟨_, _, rfl, rfl⟩
  | accept => exact .inr ⟨_, _, rfl, rfl⟩
  | run =>
      rw [runStatement_eq (Prod.eta _).symm]
      exact .inr ⟨_, _, rfl, rfl⟩

end Dialogue

namespace Statement

variable {tokens : List String} {statement : Statement}

theorem Layout.names_subset (h : Layout tokens statement) : statement.names ⊆ tokens := by
  cases h with
  | definition => exact List.cons_subset_cons _ (List.nil_subset _)
  | priceFact | valueQuery | priceQuery =>
      intro word hword
      simp only [names, List.mem_append, List.mem_singleton] at hword
      simp only [List.mem_append, List.mem_cons]
      tauto

theorem mem_names_of_material? {material : String} (h : statement.material? = some material) :
    material ∈ statement.names := by
  cases statement with
  | definition | valueQuery => contradiction
  | priceFact | priceQuery =>
      cases h
      exact List.mem_append_right _ (List.mem_singleton_self _)

theorem amount_subset_names (statement : Statement) : statement.amount ⊆ statement.names := by
  cases statement with
  | definition => exact List.nil_subset _
  | valueQuery => exact List.Subset.refl _
  | priceFact | priceQuery => exact List.subset_append_left _ _

end Statement

theorem isLine_missingPrompt {token : String} (h : Text.IsLine token) :
    Text.IsLine (missingPrompt token) :=
  (Text.IsLine.append (by decide) h).append (by decide)

namespace Interpreter

variable {interpreter next : Interpreter} {statement : Statement} {outcome : Outcome}
  {channel : Channel} {line : String}

/-- A refusal is told on one line if the names of the statement are lines. -/
theorem Refuses.isLine_message {fault : Fault} (h : interpreter.Refuses statement fault)
    (hnames : ∀ name ∈ statement.names, Text.IsLine name) : Text.IsLine fault.message := by
  have hamount : ∀ word ∈ statement.amount, Text.IsLine word :=
    fun word hword => hnames word (statement.amount_subset_names hword)
  cases h with
  | @reservedWord definition | @tokenIsMaterial definition =>
      exact .append (by decide) (hnames definition.token List.mem_cons_self)
  | notAMaterial hslot =>
      exact .append (by decide) (hnames _ (Statement.mem_names_of_material? hslot))
  | unknownMaterial | priceOverflow =>
      exact .append (by decide) (hnames _ (Statement.mem_names_of_material? rfl))
  | malformed | invalidNumeral =>
      exact .append (by decide) (.joinWords hamount)
  | fractionalUnitPrice =>
      have hmaterial := hnames _ (Statement.mem_names_of_material? rfl)
      exact ((Text.IsLine.append (by decide) hmaterial).append (by decide)).append
        (Price.isLine_text _)

theorem Step.isLine_replyLine (hstep : Step interpreter statement outcome next)
    (hrefusal : ∀ fault, outcome = .refused fault → Text.IsLine fault.message)
    (hnames : ∀ name ∈ statement.names, Text.IsLine name)
    (hreply : outcome.replyLine? = some (channel, line)) : Text.IsLine line := by
  have hamount : ∀ word ∈ statement.amount, Text.IsLine word :=
    fun word hword => hnames word (statement.amount_subset_names hword)
  cases hstep with
  | refuse =>
      cases hreply
      exact hrefusal _ rfl
  | wait hstops =>
      cases hreply
      exact isLine_missingPrompt (hamount _ (Session.mem_of_evaluate_eq_missing hstops).1)
  | answerValue =>
      cases hreply
      exact ((Text.IsLine.joinWords hamount).append (by decide)).append (.ofNat _)
  | answerPrice =>
      cases hreply
      exact (((Text.IsLine.joinWords hnames).append (by decide)).append
        (Price.isLine_text _)).append (by decide)
  | learnSymbol | learnPrice | collapse => contradiction

/-- The reply to words is a line. -/
theorem isLine_replyLine_execute {tokens : List String} (hwords : ∀ word ∈ tokens, Text.IsWord word)
    (hreply : (interpreter.execute tokens).1.replyLine? = some (channel, line)) :
    Text.IsLine line := by
  have hlines : ∀ word ∈ tokens, Text.IsLine word := fun word hword => (hwords word hword).isLine
  unfold execute at hreply
  split at hreply
  next fault hread =>
    cases hreply
    rcases Statement.eq_malformed_or_unrecognized_of_ofTokens hread with rfl | rfl
    · exact .append (by decide) (.joinWords hlines)
    · exact (by decide : Text.IsLine (Fault.unrecognized).message)
  next statement hread =>
    have hlayout := Statement.layout_of_ofTokens hread
    have hnames : ∀ name ∈ statement.names, Text.IsLine name :=
      fun name hname => hlines name (hlayout.names_subset hname)
    refine (interpreter.run_step statement).isLine_replyLine ?_ hnames hreply
    intro fault hrefused
    exact (refuses_of_run hrefused).isLine_message hnames

end Interpreter

namespace Dialogue

/-- Whatever a dialogue has come to, its reply is a line. -/
theorem isLine_replyLine {dialogue : Dialogue} (hsound : dialogue.Sound) {input line : String}
    {channel : Channel} (hreply : dialogue.replyLine? input = some (channel, line)) :
    Text.IsLine line := by
  obtain ⟨interpreter, stage⟩ := dialogue
  have hspoken : ∀ word ∈ lineTokens input, Text.IsWord word :=
    fun _ hword => isWord_of_mem_lineTokens hword
  unfold replyLine? at hreply
  split at hreply
  next => cases hreply
  next =>
    cases stage with
    | ready =>
        dsimp only at hreply
        split at hreply
        next => cases hreply
        next => exact Interpreter.isLine_replyLine_execute hspoken hreply
    | awaiting token pending =>
        obtain ⟨hwords, hstops⟩ := hsound token pending rfl
        dsimp only at hreply
        split at hreply
        next => exact Interpreter.isLine_replyLine_execute hwords hreply
        next =>
          cases hreply
          exact isLine_missingPrompt (Interpreter.stops_at_undefined hwords hstops).1.word.isLine
        next => cases hreply

end Dialogue

namespace Application

/-- A line prints the padding line, the warning if one is called for, and its messages.  Either
nothing else happens, or the journal is settled. -/
theorem run_handle_eq (app : Application) (input : String) (desk : Desk) :
    let heard := app.dialogue.hear input
    ∃ journal files clock, (app.handle input : StateM Desk (Signal × Application)).run desk =
        ((heard.signal, { app with dialogue := heard.dialogue, journal }),
          { ((desk.write .out spacing).write .err
              (app.journal.warningFor heard.messages desk)).printAll heard.messages with
            files, toClock := clock }) ∧
      (heard.messages = [] ∧ journal = app.journal ∧ files = desk.files ∧ clock = desk.toClock ∨
        heard.messages.any (·.target.reachesFile) = true ∧ journal.Settled) := by
  have hcases := app.dialogue.messages_hear_cases input
  cases hheard : app.dialogue.hear input with
  | mk messages signal dialogue =>
    rw [hheard] at hcases
    rcases hcases with hnone | ⟨first, rest, hsome, hnoted⟩
    · obtain rfl : messages = [] := hnone
      refine ⟨app.journal, desk.files, desk.toClock, ?_, .inl ⟨rfl, rfl, rfl, rfl⟩⟩
      rw [run_handle hheard rfl]
      simp [Desk.printAll, Desk.write, Journal.warningFor]
    · obtain rfl : messages = first :: rest := hsome
      have hmeant : (first :: rest).any (·.target.reachesFile) = true := by
        rw [List.any_cons, hnoted]
        rfl
      obtain ⟨journal, files, clock, hrecorded, hsettled⟩ :=
        app.journal.run_recordAll_of_noted hnoted rest (desk.write .out spacing)
      refine ⟨journal, files, clock, ?_, .inr ⟨hmeant, hsettled⟩⟩
      have hwarning : app.journal.warning (desk.write .out spacing) = app.journal.warning desk :=
        app.journal.warning_printed desk _ _
      rw [run_handle hheard hrecorded]
      dsimp only
      rw [Desk.printAll_cons_of_noted hnoted, Journal.warningFor, if_pos hmeant, hwarning]

/-- A line gets the reply that it calls for, on one line and on its channel, or none.  Ahead of the
reply the journal prints at most one warning, which says that the log file cannot be created; a
settled journal prints none and stays settled, and a warning settles it. -/
theorem line_gets_at_most_one_reply {app : Application} (hreached : app.Reached) (input : String)
    (desk : Desk) :
    ∃ journal warning files clock,
      (app.handle input : StateM Desk (Signal × Application)).run desk =
        (((app.dialogue.hear input).signal,
            { app with dialogue := (app.dialogue.hear input).dialogue, journal }),
          { ((desk.write .out spacing).write .err warning).writeLine?
              (app.dialogue.replyLine? input) with files, toClock := clock }) ∧
      (∀ channel line, app.dialogue.replyLine? input = some (channel, line) → Text.IsLine line) ∧
      (warning = "" ∨ ∃ cause, app.journal.creation desk = .error cause ∧
        Text.IsLine (Journal.unavailable cause) ∧
          warning = Journal.unavailable cause ++ "\n") ∧
      (app.journal.Settled → warning = "" ∧ journal.Settled) ∧
      (warning ≠ "" → journal.Settled) := by
  obtain ⟨journal, files, clock, hrun, hjournal⟩ := app.run_handle_eq input desk
  rw [Dialogue.printAll_hear] at hrun
  refine ⟨journal, app.journal.warningFor (app.dialogue.hear input).messages desk, files, clock,
    hrun, ?_, app.journal.warningFor_cases _ desk, ?_, ?_⟩
  · intro channel line hreply
    exact Dialogue.isLine_replyLine (steady_of_reached hreached).sound hreply
  · intro hsettled
    refine ⟨Journal.warningFor_of_settled hsettled _ desk, ?_⟩
    rcases hjournal with ⟨_, hkept, _⟩ | ⟨_, hafter⟩
    · rw [hkept]
      exact hsettled
    · exact hafter
  · intro hwarned
    rcases hjournal with ⟨hnone, _, _⟩ | ⟨_, hafter⟩
    · rw [hnone] at hwarned
      exact absurd rfl hwarned
    · exact hafter

/-- Once `glob` is defined, the answer to the question that waited for it is all that is printed. -/
theorem defined_glob_prints_its_value :
    let desk : Desk := { time := "2026-01-01 12:00:00", stamp := "20260101-120000" }
    ∃ asked : Application, asked.Reached ∧
      asked.dialogue.stage = .awaiting "glob" ["how", "much", "is", "glob", "?"] ∧
      ∃ next after, (asked.handle "glob is I" : StateM Desk (Signal × Application)).run desk =
          ((.proceed, next), after) ∧
        after.out = spacing ++ "glob is 1\n" ∧ after.err = "" ∧ Text.IsLine "glob is 1" := by
  intro desk
  have hmissing : desk.files.hasPath "config.json" = false := by decide +kernel
  have hreached := Reached.handle (.start (start_of_missing hmissing "logs"))
    "how much is glob ?" desk
  have hdialogue := dialogue_handle (ofSettings { path := "config.json" } "logs")
    "how much is glob ?" desk
  generalize ((handle _ _ : StateM Desk (Signal × Application)).run desk).1.2 = asked
    at hreached hdialogue
  have hwaits : asked.dialogue.stage = .awaiting "glob" ["how", "much", "is", "glob", "?"] := by
    rw [hdialogue]
    decide
  have hreply : asked.dialogue.replyLine? "glob is I" = some (.out, "glob is 1") := by
    rw [hdialogue]
    decide
  have hsignal : (asked.dialogue.hear "glob is I").signal = .proceed := by
    rw [hdialogue]
    decide
  have hsettled := (steady_of_reached hreached).settled _ _ hwaits
  obtain ⟨journal, warning, files, clock, hrun, hlines, _, hquiet, _⟩ :=
    line_gets_at_most_one_reply hreached "glob is I" desk
  obtain rfl : warning = "" := (hquiet hsettled).1
  rw [hsignal, hreply] at hrun
  exact ⟨asked, hreached, hwaits, _, _, hrun, rfl, rfl, hlines .out "glob is 1" hreply⟩

end Application
end RomanTrade
