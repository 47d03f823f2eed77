import RomanTrade.Proofs.LogFileGrowth
import RomanTrade.Proofs.SessionRecords

/-!
# What a session does to the files

The program looks at its settings and writes nothing but the log file.  A session without a record
leaves every file and directory as it was, and so do arguments and settings that stop the program.
-/

namespace RomanTrade

namespace Desk

variable {α β : Type}

/-- Actions that leave a desk as it is. -/
def Looks (action : StateM Desk α) : Prop :=
  ∀ desk, (action.run desk).2 = desk

theorem Looks.bind {first : StateM Desk α} {next : α → StateM Desk β} (hfirst : Looks first)
    (hnext : ∀ result, Looks (next result)) : Looks (first >>= next) := by
  intro desk
  have hlast := hnext (first.run desk).1 (first.run desk).2
  rw [StateT.run_bind]
  exact hlast.trans (hfirst desk)

theorem looks_pure (value : α) : Looks (pure value) :=
  fun _ => rfl

end Desk

open Desk

theorem SettingsFile.looks_load (path : String) :
    Looks (SettingsFile.load path : StateM Desk (Except Fault SettingsFile)) := by
  have hexists : Looks (Host.pathExists path : StateM Desk Bool) := fun _ => rfl
  have hread : Looks (Host.readFile path : StateM Desk (Except FileFault String)) := fun _ => rfl
  unfold SettingsFile.load
  apply hexists.bind
  intro there
  split
  next => exact looks_pure _
  next =>
    apply hread.bind
    intro text
    split
    next => exact looks_pure _
    next =>
      split
      next => exact looks_pure _
      next => exact looks_pure _

theorem SettingsFile.looks_loadOrDefault (path : String) :
    Looks (SettingsFile.loadOrDefault path : StateM Desk (Except Fault SettingsFile)) := by
  have hexists : Looks (Host.pathExists path : StateM Desk Bool) := fun _ => rfl
  unfold SettingsFile.loadOrDefault
  apply hexists.bind
  intro there
  split
  next => exact SettingsFile.looks_load path
  next => exact looks_pure _

theorem Application.looks_start (settingsPath logsDirectory : String) :
    Looks (Application.start settingsPath logsDirectory :
      StateM Desk (Except Fault Application)) := by
  unfold Application.start
  apply (SettingsFile.looks_loadOrDefault settingsPath).bind
  intro loaded
  cases loaded with
  | error fault => exact looks_pure _
  | ok settingsFile => exact looks_pure _

/-- A journal without file logging only prints. -/
theorem Journal.run_recordAll_of_disabled {journal : Journal} (hdisabled : journal.enabled = false)
    (messages : List Message) (desk : Desk) :
    (journal.recordAll messages : StateM Desk Journal).run desk =
      (journal, desk.printAll messages) := by
  induction messages generalizing desk with
  | nil =>
      rw [printAll_nil]
      rfl
  | cons message rest ih =>
      rw [run_recordAll_cons, run_record, hdisabled, Bool.and_false, if_neg Bool.false_ne_true,
        desk.printAll_cons message rest]
      exact ih (desk.printAll [message])

namespace ReadResult

/-- Only blank lines come before the line that asks to leave or the end of the input. -/
def onlyBlank : List ReadResult → Bool
  | .line text :: rest =>
    asksToLeave (.line text) || (text.toList.all Text.isBlank && onlyBlank rest)
  | .failed _ :: _ => false
  | .endOfInput :: _ | .interrupted :: _ | [] => true

end ReadResult

theorem Text.trim_of_blank {text : String} (hblank : text.toList.all Text.isBlank = true) :
    Text.trim text = "" := by
  have hnothing : text.toList.dropWhile Text.isBlank = [] := by
    simpa [List.dropWhile_eq_nil_iff] using hblank
  rw [← String.toList_inj, Text.toList_trim, hnothing]
  rfl

/-- The message that closes a session that fails. -/
def Ending.closing : Ending → List Message
  | .failed fault => [⟨.error, fault.message, .both⟩]
  | .finished | .collapsed => []

/-- What the program says at its end without recording it. -/
def Ending.lastWords : Ending → String
  | .collapsed => "denominator == 0\n"
  | .finished | .failed _ => ""

theorem Ending.exists_of_mem_closing {ending : Ending} {record : Message}
    (h : record ∈ ending.closing) :
    ∃ fault, ending = .failed fault ∧ record = ⟨.error, fault.message, .both⟩ := by
  cases ending with
  | finished | collapsed => cases h
  | failed fault => exact ⟨fault, rfl, List.mem_singleton.mp h⟩

theorem Ending.told_closing (ending : Ending) : Message.told .out ending.closing = [] := by
  cases ending <;> rfl

namespace Application

/-- All that is recorded when a session is run on a desk. -/
def records (app : Application) (reads : List ReadResult) (desk : Desk) : List Message :=
  (app.dialogue.hearAll (ReadResult.linesHeard reads)).messages ++
    (app.sessionOn reads desk).1.1.closing

theorem hear_of_blank {dialogue : Dialogue} (hready : dialogue.stage = .ready) :
    dialogue.hear "" = { dialogue } := by
  have hstays : Dialogue.isExit (Text.trim "") = false := by decide
  have hwordless : Text.tokenize (Text.trim "") = [] := by decide
  unfold Dialogue.hear
  simp [hstays, hwordless, hready]

/-- Blank lines are passed over without a record. -/
theorem records_of_onlyBlank {app : Application} (hready : app.dialogue.stage = .ready)
    {reads : List ReadResult} (hblank : ReadResult.onlyBlank reads = true) (desk : Desk) :
    app.records reads desk = [] := by
  induction reads generalizing app desk with
  | nil => rfl
  | cons read rest ih =>
      cases read with
      | endOfInput | interrupted => rfl
      | failed => cases hblank
      | line text =>
        cases hleaves : (ReadResult.line text).asksToLeave with
        | true =>
            rw [records, sessionOn_of_leave app rest desk hleaves, ReadResult.linesHeard,
              if_pos hleaves]
            rfl
        | false =>
            simp only [ReadResult.onlyBlank, hleaves, Bool.false_or, Bool.and_eq_true] at hblank
            have hnothing := Text.trim_of_blank hblank.1
            have hheard : app.prompted.dialogue.hear "" = { dialogue := app.dialogue } :=
              hear_of_blank hready
            let shown := desk.write .out app.beforeLine
            have hhandled : (app.prompted.handle "" :
                StateM Desk (Signal × Application)).run shown =
                  ((.proceed, app.prompted), shown.write .out spacing) :=
              run_handle hheard rfl
            have hprompted : app.prompted.dialogue.stage = .ready := hready
            have hrest := ih hprompted hblank.2 (shown.write .out spacing)
            rw [records, sessionOn_line, hnothing, hhandled, ReadResult.linesHeard,
              if_neg (by simp [hleaves]), hnothing]
            change app.dialogue.hear "" = { dialogue := app.dialogue } at hheard
            simp only [Dialogue.hearAll, hheard, Heard.andThen, continued]
            exact hrest

end Application

namespace CommandLine

variable {arguments : List String} {paths : Paths} {app : Application} {fault : Fault}

theorem run_of_rejected {rejection : ArgumentFault}
    (hrejected : Paths.ofArguments arguments = .error rejection) (reads : List ReadResult)
    (desk : Desk) :
    (run arguments reads : StateM Desk UInt32).run desk =
      (faultCode, desk.write .err (rejection.message ++ "\n")) := by
  unfold run start
  rw [hrejected]
  rfl

/-- What starting the application with these paths comes to. -/
def startOn (paths : Paths) (desk : Desk) : Except Fault Application :=
  ((Application.start paths.settings paths.logs :
    StateM Desk (Except Fault Application)).run desk).1

theorem run_start {desk : Desk} {started : Except Fault Application}
    (hstarted : startOn paths desk = started) :
    (Application.start paths.settings paths.logs :
      StateM Desk (Except Fault Application)).run desk = (started, desk) :=
  Prod.ext hstarted (Application.looks_start paths.settings paths.logs desk)

/-- A started application is ready, and its journal has not been used. -/
theorem exists_settings_of_startOn {desk : Desk} (hstarted : startOn paths desk = .ok app) :
    ∃ settingsFile, app = Application.ofSettings settingsFile paths.logs :=
  Application.exists_settings_of_start (run_start hstarted)

theorem logsIn_of_started {desk : Desk} (hstarted : startOn paths desk = .ok app) :
    app.journal.LogsIn paths.logs desk.toClock desk := by
  obtain ⟨settingsFile, rfl⟩ := exists_settings_of_startOn hstarted
  constructor
  · intro path hpath
    cases hpath
  · intro _
    exact ⟨rfl, rfl⟩

theorem run_of_unstarted (hpaths : Paths.ofArguments arguments = .ok paths) {desk : Desk}
    (hfailed : startOn paths desk = .error fault)
    (reads : List ReadResult) :
    (run arguments reads : StateM Desk UInt32).run desk =
      (faultCode, desk.write .err (fault.message ++ "\n")) := by
  have hstart : (start arguments : StateM Desk (Except UInt32 Application)).run desk =
      (.error faultCode, desk.write .err (fault.message ++ "\n")) := by
    unfold start
    rw [hpaths]
    dsimp only
    rw [Desk.run_bind_of_run (run_start hfailed)]
    rfl
  unfold run
  rw [Desk.run_bind_of_run hstart]
  rfl

theorem run_of_started (hpaths : Paths.ofArguments arguments = .ok paths) {desk : Desk}
    (hstarted : startOn paths desk = .ok app)
    (reads : List ReadResult) :
    (run arguments reads : StateM Desk UInt32).run desk =
      (finish (app.sessionOn reads desk).1.2 (app.sessionOn reads desk).1.1 :
        StateM Desk UInt32).run (app.sessionOn reads desk).2 := by
  have hstart : (start arguments : StateM Desk (Except UInt32 Application)).run desk =
      (.ok app, desk) := by
    unfold start
    rw [hpaths]
    dsimp only
    rw [Desk.run_bind_of_run (run_start hstarted)]
    rfl
  unfold run
  rw [Desk.run_bind_of_run hstart]
  rfl

/-- At the end the closing message is recorded. -/
theorem run_finish (app : Application) (ending : Ending) (desk : Desk) :
    let closed := ((app.journal.recordAll ending.closing : StateM Desk Journal).run desk).2
    ((finish app ending : StateM Desk UInt32).run desk).2 =
      { closed with err := closed.err ++ ending.lastWords } := by
  cases ending with
  | collapsed => rfl
  | finished | failed =>
      simp only [Ending.lastWords, String.append_empty]
      rfl

/-- The program leaves the files and the error channel as its records do, apart from its last words;
on the output channel the lines of the records stand in their order. -/
theorem run_recorded (hpaths : Paths.ofArguments arguments = .ok paths) {desk : Desk}
    (hstarted : startOn paths desk = .ok app) (reads : List ReadResult) :
    let records := app.records reads desk
    let recorded := ((app.journal.recordAll records : StateM Desk Journal).run desk).2
    ∃ shown, ((run arguments reads : StateM Desk UInt32).run desk).2 =
        { recorded with
          out := desk.out ++ shown
          err := recorded.err ++ (app.sessionOn reads desk).1.1.lastWords } ∧
      Interleaves app.screenPieces (Message.told .out records) shown := by
  have hprompt : Screen.prompt "> " ∈ app.screenPieces := by simp [Application.screenPieces]
  have hspacing : Application.spacing ∈ app.screenPieces := by simp [Application.screenPieces]
  obtain ⟨shown, hjournal, hdesk, hshown⟩ :=
    app.sessionOn_recorded reads desk hprompt hspacing app.interleaves_beforeLine
  dsimp only
  rw [run_of_started hpaths hstarted, run_finish, Application.records,
    Journal.run_recordAll_append, Message.told_append, Ending.told_closing, List.append_nil,
    hjournal, hdesk]
  generalize (app.journal.recordAll _ : StateM Desk Journal).run desk = recorded
  have hclosed := recorded.1.prints_recordAll (app.sessionOn reads desk).1.1.closing recorded.2
    (desk.out ++ shown)
  have hnothing : desk.out ++ shown ++ Text.joinLines [] = desk.out ++ shown :=
    String.append_empty
  rw [hclosed, Desk.linesOn_eq_joinLines, Ending.told_closing, hnothing]
  exact ⟨shown, rfl, hshown⟩

/-- Whatever the files, the arguments and the input are, the program makes at most the directory of
the log file, with those above it, and writes no file but the log file, which is named after the
first look at the clock.  Arguments that are rejected, settings that cannot be loaded, logging that
is switched off and an input that is blank before its end leave all files as they were. -/
theorem programs_write_only_their_log (arguments : List String) (reads : List ReadResult)
    (desk : Desk) :
    let after := ((run arguments reads : StateM Desk UInt32).run desk).2
    (∀ rejection, Paths.ofArguments arguments = .error rejection → after.files = desk.files) ∧
    (∀ paths, Paths.ofArguments arguments = .ok paths →
      let log := Journal.logPath paths.logs desk.stamp
      desk.files.Grown (Journal.directories paths.logs) [log] after.files ∧
      (∀ location, after.files.locate log ≠ .ok location →
        after.files.file? location = desk.files.file? location) ∧
      (∀ fault, startOn paths desk = .error fault → after.files = desk.files) ∧
      (∀ app, startOn paths desk = .ok app →
        app.settingsFile.settings.fileLogging.value = false ∨ ReadResult.onlyBlank reads = true →
          after.files = desk.files)) := by
  intro after
  constructor
  · intro rejection hrejected
    have hrun := run_of_rejected hrejected reads desk
    simp only [after, hrun]
    rfl
  · intro paths hpaths log
    have hunstarted : ∀ fault, startOn paths desk = .error fault → after.files = desk.files := by
      intro fault hfailed
      have hrun := run_of_unstarted hpaths hfailed reads
      simp only [after, hrun]
      rfl
    have hgrown : desk.files.Grown (Journal.directories paths.logs) [log] after.files := by
      cases hstarted : startOn paths desk with
      | error fault =>
          rw [hunstarted fault hstarted]
          exact .refl _ _ desk.files
      | ok app =>
          obtain ⟨shown, hrecorded, _⟩ := run_recorded hpaths hstarted reads
          have hlogs := logsIn_of_started hstarted
          obtain ⟨_, hgrows⟩ := app.journal.grows_recordAll (app.records reads desk) desk hlogs
          simp only [after, hrecorded]
          exact hgrows
    refine ⟨hgrown, ?_, hunstarted, ?_⟩
    · intro location haway
      apply hgrown.file?_eq
      intro path hpath
      rw [List.mem_singleton.mp hpath]
      exact haway
    · intro app hstarted hquiet
      obtain ⟨shown, hrecorded, _⟩ := run_recorded hpaths hstarted reads
      simp only [after, hrecorded]
      obtain ⟨settingsFile, rfl⟩ := exists_settings_of_startOn hstarted
      rcases hquiet with hdisabled | hblank
      · rw [Journal.run_recordAll_of_disabled hdisabled]
        rfl
      · rw [Application.records_of_onlyBlank rfl hblank]
        rfl

end CommandLine
end RomanTrade
