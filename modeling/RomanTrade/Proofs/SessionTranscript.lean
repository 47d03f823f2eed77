import RomanTrade.Proofs.DialogueEvents
import RomanTrade.Proofs.LogFileContent
import RomanTrade.Proofs.SessionFiles

/-!
# The log file as a transcript

A session that keeps a log file leaves in it all that happened: behind the header there is one line
for each record, in the order of the events.  The console shows some of these records, and nothing
but the screen around them.
-/

namespace RomanTrade

theorem Level.isLine_column (level : Level) : Text.IsLine level.column := by
  cases level <;> decide

namespace Clock

/-- The times that looks at a clock find. -/
def times (clock : Clock) : List String :=
  clock.time :: clock.later.map Prod.fst

theorem times_next_subset (clock : Clock) : clock.next.times ⊆ clock.times := by
  obtain ⟨time, stamp, later⟩ := clock
  cases later with
  | nil => exact List.Subset.refl _
  | cons moment later => exact List.subset_cons_self _ _

theorem time_mem_times (clock : Clock) : clock.time ∈ clock.times :=
  List.mem_cons_self

end Clock

namespace Journal

variable {time : String} {clock : Clock}

theorem isLine_header (htime : Text.IsLine time) : Text.IsLine (header time) :=
  ((Text.IsLine.append (by decide) (by decide : Text.IsLine Screen.version)).append
    (by decide)).append htime

theorem isLine_line (htime : Text.IsLine time) (level : Level) {text : String}
    (htext : Text.IsLine text) : Text.IsLine (line time level text) :=
  ((((Text.IsLine.append (by decide) htime).append (by decide)).append
    level.isLine_column).append (by decide)).append htext

theorem isLine_of_mem_entries (hclock : ∀ time ∈ clock.times, Text.IsLine time)
    {messages : List Message} (htexts : ∀ message ∈ messages, Text.IsLine message.text) :
    ∀ entry ∈ entries clock messages, Text.IsLine entry := by
  induction messages generalizing clock with
  | nil =>
      intro entry hentry
      cases hentry
  | cons message rest ih =>
      rw [List.forall_mem_cons] at htexts
      rw [entries, List.forall_mem_cons]
      constructor
      · exact isLine_line (hclock clock.time clock.time_mem_times) message.level htexts.1
      · exact ih (fun time htime => hclock time (clock.times_next_subset htime)) htexts.2

end Journal

theorem ReadResult.eq_notText_of_mem_ofBytes {bytes : List UInt8} {cause : FileFault}
    (h : .failed cause ∈ ofBytes bytes) : cause = .notText := by
  obtain ⟨line, _, hread⟩ := List.mem_map.mp h
  rcases ofLineBytes_cases line with ⟨_, text, htext⟩ | ⟨_, hfailed⟩
  · rw [htext] at hread
    cases hread
  · rw [hfailed] at hread
    exact (ReadResult.failed.inj hread).symm

namespace Application

/-- A session fails only for a read that failed. -/
theorem exists_failed_of_sessionOn (app : Application) (reads : List ReadResult) (desk : Desk)
    {fault : Fault} (hfailed : (app.sessionOn reads desk).1.1 = .failed fault) :
    ∃ cause, fault = .file cause ∧ .failed cause ∈ reads := by
  induction reads generalizing app desk with
  | nil => cases hfailed
  | cons read rest ih =>
      cases read with
      | endOfInput | interrupted => cases hfailed
      | failed cause =>
          cases hfailed
          exact ⟨cause, rfl, List.mem_cons_self⟩
      | line text =>
        cases hleaves : (ReadResult.line text).asksToLeave with
        | true =>
            rw [sessionOn_of_leave app rest desk hleaves] at hfailed
            cases hfailed
        | false =>
            obtain ⟨next, after, hcollapsed | hgoes⟩ := sessionOn_of_stay app desk hleaves
            · rw [hcollapsed] at hfailed
              cases hfailed
            · rw [hgoes] at hfailed
              obtain ⟨cause, rfl, hmem⟩ := ih next after hfailed
              exact ⟨cause, rfl, List.mem_cons_of_mem _ hmem⟩

theorem records_eq (app : Application) (reads : List ReadResult) (desk : Desk) :
    app.records reads desk =
      (app.dialogue.eventsAll (ReadResult.linesHeard reads)).flatMap Dialogue.Event.records ++
        (app.sessionOn reads desk).1.1.closing := by
  rw [records, Dialogue.messages_hearAll]

variable {app : Application} {reads : List ReadResult} {desk : Desk} {record : Message}

theorem reachesFile_of_mem_records (h : record ∈ app.records reads desk) :
    record.target.reachesFile = true := by
  rw [records_eq] at h
  rcases List.mem_append.mp h with hevents | hclosing
  · obtain ⟨event, _, hrecord⟩ := List.mem_flatMap.mp hevents
    exact Dialogue.Event.reachesFile_of_mem_records hrecord
  · obtain ⟨fault, _, rfl⟩ := Ending.exists_of_mem_closing hclosing
    rfl

/-- Every record of a session is one line, if the causes of failed reads are told on one. -/
theorem isLine_of_mem_records (hsound : app.dialogue.Sound)
    (hcauses : ∀ cause, .failed cause ∈ reads → Text.IsLine cause.message)
    (h : record ∈ app.records reads desk) : Text.IsLine record.text := by
  rw [records_eq] at h
  rcases List.mem_append.mp h with hevents | hclosing
  · obtain ⟨event, hevent, hrecord⟩ := List.mem_flatMap.mp hevents
    exact Dialogue.isLine_records_eventsAll hsound _ hevent hrecord
  · obtain ⟨fault, hending, rfl⟩ := Ending.exists_of_mem_closing hclosing
    obtain ⟨cause, rfl, hmem⟩ := app.exists_failed_of_sessionOn reads desk hending
    exact Text.IsLine.append (by decide) (hcauses cause hmem)

end Application

namespace CommandLine

variable {arguments : List String} {paths : Paths} {app : Application} {reads : List ReadResult}
  {desk : Desk} {path : String}

theorem sound_of_startOn (hstarted : startOn paths desk = .ok app) : app.dialogue.Sound := by
  obtain ⟨settingsFile, rfl⟩ := exists_settings_of_startOn hstarted
  exact Dialogue.sound_of_ready rfl

theorem creates_of_startOn (hstarted : startOn paths desk = .ok app)
    (henabled : app.settingsFile.settings.fileLogging.value = true)
    (hcreated : app.journal.creation desk = .ok path) : app.journal.Creates path desk := by
  obtain ⟨settingsFile, rfl⟩ := exists_settings_of_startOn hstarted
  constructor
  · exact henabled
  · rfl
  · exact hcreated

end CommandLine
end RomanTrade
