import RomanTrade.CommandLine
import RomanTrade.Proofs.FileLoggingUnseen

/-!
# Sessions as records

What a session does to the journal, the files and the error channel is what its messages do when
they are recorded all at once.  The screen only adds to the output channel: there the lines of the
messages stand in their order, with prompts between them.
-/

namespace RomanTrade

/-- The text consists of the lines, in their order, and of pieces between them. -/
inductive Interleaves (pieces : List String) : List String → String → Prop where
  | nothing : Interleaves pieces [] ""
  | piece {piece text : String} {lines : List String} (mem : piece ∈ pieces)
      (rest : Interleaves pieces lines text) : Interleaves pieces lines (piece ++ text)
  | line {line text : String} {lines : List String} (rest : Interleaves pieces lines text) :
      Interleaves pieces (line :: lines) (line ++ "\n" ++ text)

namespace Interleaves

variable {pieces front back : List String} {text more : String}

theorem append (hfront : Interleaves pieces front text) (hback : Interleaves pieces back more) :
    Interleaves pieces (front ++ back) (text ++ more) := by
  induction hfront with
  | nothing =>
      rw [List.nil_append, String.empty_append]
      exact hback
  | piece mem _ ih =>
      rw [String.append_assoc]
      exact .piece mem ih
  | line _ ih =>
      rw [List.cons_append, String.append_assoc]
      exact .line ih

theorem ofPiece {piece : String} (mem : piece ∈ pieces) : Interleaves pieces [] piece := by
  have hpiece := Interleaves.piece mem .nothing
  rw [String.append_empty] at hpiece
  exact hpiece

theorem ofLines (lines : List String) : Interleaves pieces lines (Text.joinLines lines) := by
  induction lines with
  | nil => exact .nothing
  | cons first rest ih =>
      rw [Text.joinLines_cons]
      exact .line ih

end Interleaves

/-- The lines that messages show on a channel. -/
def Message.told (channel : Channel) (messages : List Message) : List String :=
  (messages.filter fun message =>
    message.target.reachesConsole && message.level.channel = channel).map (·.text)

theorem Message.told_append (channel : Channel) (front back : List Message) :
    told channel (front ++ back) = told channel front ++ told channel back := by
  simp [told]

namespace Desk

variable {α β : Type} {front back : String}

theorem linesOn_eq_joinLines (channel : Channel) (messages : List Message) :
    linesOn channel messages = Text.joinLines (Message.told channel messages) := by
  induction messages with
  | nil => rfl
  | cons message rest ih =>
      unfold linesOn at ih ⊢
      rw [List.map_cons, String.join_cons, ih, Message.printed]
      simp only [Message.told, List.filter_cons, Bool.and_eq_true, decide_eq_true_eq]
      split
      · rw [List.map_cons, Text.joinLines_cons]
      · rw [String.empty_append]

/-- Actions that add a text to the output and go the same way whatever stands there already. -/
def Prints (text : String) (action : StateM Desk α) : Prop :=
  ∀ (desk : Desk) (out : String), action.run { desk with out } =
    ((action.run desk).1, { (action.run desk).2 with out := out ++ text })

theorem prints_pure (value : α) : Prints "" (pure value) := by
  intro desk out
  rw [String.append_empty]
  rfl

theorem Prints.bind {first : StateM Desk α} {next : α → StateM Desk β}
    (hfirst : Prints front first) (hnext : ∀ result, Prints back (next result)) :
    Prints (front ++ back) (first >>= next) := by
  intro desk out
  have hlast := hnext (first.run desk).1 (first.run desk).2 (out ++ front)
  rw [run_bind_of_run (hfirst desk out), hlast, String.append_assoc]
  rfl

theorem Prints.bind_of_silent {first : StateM Desk α} {next : α → StateM Desk β}
    (hfirst : Prints "" first) (hnext : ∀ result, Prints back (next result)) :
    Prints back (first >>= next) := by
  have hboth := hfirst.bind hnext
  rw [String.empty_append] at hboth
  exact hboth

theorem prints_err (text : String) : Prints "" (Host.write .err text : StateM Desk Unit) := by
  intro desk out
  rw [String.append_empty]
  rfl

theorem Yields.prints {good : α → Prop} {action : StateM Desk α} (hyields : Yields good action) :
    Prints "" action := by
  intro desk out
  obtain ⟨result, files, clock, _, hrun⟩ := hyields desk
  have hhere : action.run desk = (result, { desk with files, toClock := clock }) :=
    hrun desk.out desk.err
  rw [hhere, String.append_empty]
  exact hrun out desk.err

end Desk

namespace Journal

open Desk

theorem prints_ensureFile (journal : Journal) :
    Prints "" (journal.ensureFile : StateM Desk Journal) := by
  unfold ensureFile
  split
  next => exact prints_pure journal
  next =>
    apply (yields_createFile journal.directory).prints.bind_of_silent
    intro created
    cases created with
    | ok path => exact prints_pure _
    | error cause =>
        apply (prints_err _).bind_of_silent
        intro _
        exact prints_pure _

theorem prints_recordInFile (journal : Journal) (message : Message) :
    Prints "" (journal.recordInFile message : StateM Desk Journal) := by
  unfold recordInFile
  apply journal.prints_ensureFile.bind_of_silent
  intro next
  cases next.path? with
  | none => exact prints_pure next
  | some path =>
      apply yields_time.prints.bind_of_silent
      intro time
      apply (yields_appendFile path _).prints.bind_of_silent
      intro _
      exact prints_pure next

theorem prints_record (journal : Journal) (message : Message) :
    Prints (linesOn .out [message]) (journal.record message : StateM Desk Journal) := by
  intro desk out
  have hshown : ({ desk with out } : Desk).printAll [message] =
      { desk.printAll [message] with out := out ++ linesOn .out [message] } := rfl
  rw [run_record, run_record, hshown]
  split
  next =>
    rw [journal.prints_recordInFile message, String.append_empty]
  next => rfl

theorem prints_recordAll (journal : Journal) (messages : List Message) :
    Prints (linesOn .out messages) (journal.recordAll messages : StateM Desk Journal) := by
  induction messages generalizing journal with
  | nil => exact prints_pure journal
  | cons message rest ih =>
      have hlines := linesOn_append .out [message] rest
      rw [List.singleton_append] at hlines
      rw [hlines]
      apply (journal.prints_record message).bind
      intro next
      exact ih next

theorem run_recordAll_append (journal : Journal) (front back : List Message) (desk : Desk) :
    (journal.recordAll (front ++ back) : StateM Desk Journal).run desk =
      let (next, after) := (journal.recordAll front : StateM Desk Journal).run desk
      (next.recordAll back : StateM Desk Journal).run after := by
  induction front generalizing journal desk with
  | nil => rfl
  | cons message rest ih =>
      rw [List.cons_append, run_recordAll_cons, run_recordAll_cons]
      exact ih _ _

end Journal

namespace Application

/-- A line leaves the journal and the desk as its messages do; their lines on the output channel are
shown below the padding line. -/
theorem run_handle_recorded (app : Application) (input : String) (desk : Desk) (out : String) :
    let heard := app.dialogue.hear input
    let recorded := (app.journal.recordAll heard.messages : StateM Desk Journal).run desk
    (app.handle input : StateM Desk (Signal × Application)).run { desk with out } =
      ((heard.signal, { app with dialogue := heard.dialogue, journal := recorded.1 }),
        { recorded.2 with out := out ++ spacing ++ Desk.linesOn .out heard.messages }) :=
  run_handle rfl (app.journal.prints_recordAll (app.dialogue.hear input).messages desk _)

theorem sessionOn_line_recorded (app : Application) (text : String) (rest : List ReadResult)
    (desk : Desk) :
    let heard := app.dialogue.hear (Text.trim text)
    let recorded := (app.journal.recordAll heard.messages : StateM Desk Journal).run desk
    app.sessionOn (.line text :: rest) desk =
      continued rest
        ((heard.signal,
            { app.prompted with dialogue := heard.dialogue, journal := recorded.1 }),
          { recorded.2 with
            out := desk.out ++
              (app.beforeLine ++ spacing ++ Desk.linesOn .out heard.messages) }) := by
  have hrun : (app.prompted.handle (Text.trim text) : StateM Desk (Signal × Application)).run
      (desk.write .out app.beforeLine) = _ :=
    app.prompted.run_handle_recorded (Text.trim text) desk (desk.out ++ app.beforeLine)
  have hdialogue : app.prompted.dialogue = app.dialogue := rfl
  have hjournal : app.prompted.journal = app.journal := rfl
  rw [hdialogue, hjournal] at hrun
  rw [sessionOn_line, hrun]
  simp only [String.append_assoc]

/-- What the screen shows around the lines of the messages. -/
def screenPieces (app : Application) : List String :=
  [app.opening, Screen.prompt "> ", spacing]

theorem interleaves_beforeLine (app : Application) :
    Interleaves app.screenPieces [] app.beforeLine := by
  have hprompt : Screen.prompt "> " ∈ app.screenPieces := by simp [screenPieces]
  unfold beforeLine
  split
  · exact .piece (by simp [screenPieces]) (.ofPiece hprompt)
  · exact .ofPiece hprompt

theorem beforeLine_of_opened {app : Application} (hopened : app.opened = true) :
    app.beforeLine = Screen.prompt "> " := by
  simp [beforeLine, hopened]

/-- A session leaves the journal and the desk as its messages do when they are recorded at once,
apart from what the screen adds to the output. -/
theorem sessionOn_recorded (app : Application) (reads : List ReadResult) (desk : Desk)
    {pieces : List String} (hprompt : Screen.prompt "> " ∈ pieces) (hspacing : spacing ∈ pieces)
    (hbefore : Interleaves pieces [] app.beforeLine) :
    let messages := (app.dialogue.hearAll (ReadResult.linesHeard reads)).messages
    let recorded := (app.journal.recordAll messages : StateM Desk Journal).run desk
    ∃ shown, (app.sessionOn reads desk).1.2.journal = recorded.1 ∧
      (app.sessionOn reads desk).2 = { recorded.2 with out := desk.out ++ shown } ∧
      Interleaves pieces (Message.told .out messages) shown := by
  induction reads generalizing app desk with
  | nil => exact ⟨_, rfl, rfl, hbefore⟩
  | cons read rest ih =>
      cases read with
      | endOfInput | interrupted | failed => exact ⟨_, rfl, rfl, hbefore⟩
      | line text =>
        have hpadded := hbefore.append (.ofPiece hspacing)
        cases hleaves : (ReadResult.line text).asksToLeave with
        | true =>
            rw [sessionOn_of_leave app rest desk hleaves, ReadResult.linesHeard, if_pos hleaves]
            exact ⟨_, rfl, congrArg (fun out => { desk with out }) String.append_assoc, hpadded⟩
        | false =>
            have hasks : Dialogue.isExit (Text.trim (Text.trim text)) = false := by
              rw [Text.trim_trim]
              exact hleaves
            have hsignal := app.dialogue.signal_hear_of_stay hasks
            rw [sessionOn_line_recorded, ReadResult.linesHeard, if_neg (by simp [hleaves])]
            simp only [Dialogue.hearAll, Heard.andThen]
            generalize app.dialogue.hear (Text.trim text) = heard at hsignal
            have hlines : Interleaves pieces (Message.told .out heard.messages)
                (app.beforeLine ++ spacing ++ Desk.linesOn .out heard.messages) := by
              rw [Desk.linesOn_eq_joinLines]
              exact hpadded.append (.ofLines _)
            rcases hsignal with hproceeds | hcollapses
            · rw [hproceeds, if_neg (by simp)]
              simp only [continued, Heard.messages_after, Journal.run_recordAll_append,
                Message.told_append]
              generalize (app.journal.recordAll heard.messages : StateM Desk Journal).run desk =
                recorded
              obtain ⟨journal, after⟩ := recorded
              -- The next line comes to an opened screen, below what has been shown so far.
              let next : Application :=
                { app.prompted with dialogue := heard.dialogue, journal }
              have hnext : Interleaves pieces [] next.beforeLine := by
                rw [beforeLine_of_opened rfl]
                exact .ofPiece hprompt
              obtain ⟨shown, hkept, hdesk, hlater⟩ := ih next
                { after with
                  out := desk.out ++
                    (app.beforeLine ++ spacing ++ Desk.linesOn .out heard.messages) } hnext
              rw [journal.prints_recordAll] at hkept hdesk
              refine ⟨_, hkept, ?_, hlines.append hlater⟩
              rw [hdesk]
              simp only [String.append_assoc]
              rfl
            · rw [hcollapses, if_pos rfl]
              exact ⟨_, rfl, rfl, hlines⟩

end Application
end RomanTrade
