import RomanTrade.Proofs.JournalCalls

/-!
# The attempt to create a log file

A journal attempts to create its log file when the first message that is meant for the file comes
while file logging is on, in the directory that was chosen last before it.  What comes of this one
attempt stays: the directory, the path if there is one, and the file with its entries, or the
warning.
-/

namespace RomanTrade

namespace Occurrence

variable {enabled : Bool} {desk : Desk}

theorem messages_append (front back : List Occurrence) :
    messages (front ++ back) = messages front ++ messages back := by
  induction front with
  | nil => rfl
  | cons occurrence rest ih =>
      cases occurrence with
      | logged message => exact congrArg (message :: ·) ih
      | switched next => exact ih
      | moved directory => exact ih
      | meanwhile change => exact ih

theorem enabledAfter_append (enabled : Bool) (front back : List Occurrence) :
    enabledAfter enabled (front ++ back) = enabledAfter (enabledAfter enabled front) back := by
  induction front generalizing enabled with
  | nil => rfl
  | cons occurrence rest ih =>
      cases occurrence with
      | logged message => exact ih enabled
      | switched next => exact ih next
      | moved directory => exact ih enabled
      | meanwhile change => exact ih enabled

theorem meant_append (enabled : Bool) (front back : List Occurrence) :
    meant enabled (front ++ back) =
      meant enabled front ++ meant (enabledAfter enabled front) back := by
  induction front generalizing enabled with
  | nil => rfl
  | cons occurrence rest ih =>
      cases occurrence with
      | switched next => exact ih next
      | moved directory => exact ih enabled
      | meanwhile change => exact ih enabled
      | logged message =>
          rw [List.cons_append, meant, meant, enabledAfter]
          split
          · exact congrArg (message :: ·) (ih enabled)
          · exact ih enabled

/-- Unless no message is meant for the log file, there is a first one. -/
theorem exists_first_meant {occurrences : List Occurrence} (h : meant enabled occurrences ≠ []) :
    ∃ front message back, occurrences = front ++ logged message :: back ∧
      meant enabled front = [] ∧
      (message.target.reachesFile && enabledAfter enabled front) = true := by
  induction occurrences generalizing enabled with
  | nil => exact absurd rfl h
  | cons occurrence rest ih =>
      cases occurrence with
      | switched next =>
          obtain ⟨front, message, back, rfl, hnone, hmeant⟩ := ih h
          exact ⟨switched next :: front, message, back, rfl, hnone, hmeant⟩
      | moved directory =>
          obtain ⟨front, message, back, rfl, hnone, hmeant⟩ := ih h
          exact ⟨moved directory :: front, message, back, rfl, hnone, hmeant⟩
      | meanwhile change =>
          obtain ⟨front, message, back, rfl, hnone, hmeant⟩ := ih h
          exact ⟨meanwhile change :: front, message, back, rfl, hnone, hmeant⟩
      | logged message =>
          by_cases hfirst : (message.target.reachesFile && enabled) = true
          · exact ⟨[], message, rest, rfl, rfl, hfirst⟩
          · rw [meant, if_neg hfirst] at h
            obtain ⟨front, later, back, rfl, hnone, hmeant⟩ := ih h
            refine ⟨logged message :: front, later, back, rfl, ?_, hmeant⟩
            rw [meant, if_neg hfirst]
            exact hnone

end Occurrence

namespace Journal

open Occurrence

variable {journal : Journal} {desk tried : Desk} {message : Message}
  {occurrences front back : List Occurrence} {result : Except FileFault String}

/-- The desk after an attempt that a message has called for: a failure is reported, and in a log
file that is there the message is entered. -/
def afterAttempt (result : Except FileFault String) (tried : Desk) (message : Message) : Desk :=
  match result with
  | .error cause => tried.write .err (unavailable cause ++ "\n")
  | .ok path => tried.enter (some path) message

/-- The first record that is meant for the log file tries to create it. -/
theorem run_record_of_unattempted (hunattempted : journal.attempted = false)
    (hpath : journal.path? = none)
    (hmeant : (message.target.reachesFile && journal.enabled) = true)
    (hattempt : (createFile journal.directory : StateM Desk (Except FileFault String)).run
      (desk.printAll [message]) = (result, tried)) :
    (journal.record message : StateM Desk Journal).run desk =
      ({ journal with attempted := true, path? := result.toOption },
        afterAttempt result tried message) := by
  cases result with
  | error cause =>
      rw [run_record_of_failed hunattempted hpath hmeant hattempt, hpath]
      rfl
  | ok path => exact run_record_of_opened hunattempted hmeant hattempt

/-- The attempt that a message calls for after `front`, if the journal was new before. -/
def attempt (desk : Desk) (front : List Occurrence) (message : Message) :
    Except FileFault String × Desk :=
  (createFile (directoryAfter "logs" front) : StateM Desk (Except FileFault String)).run
    ((desk.goOn none true front).printAll [message])

theorem live_of_first_meant (hnone : meant true front = [])
    (hmeant : (message.target.reachesFile && enabledAfter true front) = true)
    (hattempt : attempt desk front message = (result, tried)) (back : List Occurrence) :
    ({} : Journal).live desk (front ++ .logged message :: back) =
      ({ enabled := enabledAfter true (front ++ .logged message :: back), attempted := true,
         path? := result.toOption, directory := directoryAfter "logs" front },
        (afterAttempt result tried message).goOn result.toOption true back) := by
  have henabled : enabledAfter true front = true := (Bool.and_eq_true_iff.mp hmeant).2
  let asked : Journal := ({} : Journal).turned front
  let next : Journal := { asked with attempted := true, path? := result.toOption }
  have hunattempted : asked.attempted = false := rfl
  have hpath : asked.path? = none := rfl
  have hfront : ({} : Journal).live desk front = (asked, desk.goOn none true front) :=
    live_eq_goOn (.inr hnone)
  have hrecord := run_record_of_unattempted hunattempted hpath hmeant hattempt
  have hback : next.live (afterAttempt result tried message) back =
      (next.turned back, (afterAttempt result tried message).goOn result.toOption
        (enabledAfter true front) back) :=
    live_eq_goOn (.inl rfl)
  rw [live_append, hfront, live, undergo, hrecord, enabledAfter_append]
  rw [henabled] at hback
  exact hback

theorem console_createFile {directory : String}
    (hattempt : (createFile directory : StateM Desk (Except FileFault String)).run desk =
      (result, tried)) : tried.console = desk.console := by
  obtain ⟨_, files, clock, _, hrun⟩ := yields_createFile directory desk
  have htried : tried = { desk with files, toClock := clock } :=
    congrArg Prod.snd (hattempt.symm.trans (hrun desk.out desk.err))
  rw [htried]
  rfl

/-- The attempt that succeeds takes two looks at the clock. -/
theorem exists_holdsFile_of_createFile {directory path : String}
    (hcreated : (createFile directory : StateM Desk (Except FileFault String)).run desk =
      (.ok path, tried)) :
    tried.toClock = desk.toClock.next.next ∧ ∃ location, tried.files.HoldsFile path location
      (desk.files.contentAt location ++ (header desk.toClock.next.time ++ "\n").toUTF8) := by
  let asked : Journal := { directory }
  have hcreation : asked.creation desk = .ok path := congrArg Prod.fst hcreated
  obtain ⟨files, location, hrun, hholds⟩ := run_createFile_of_created hcreation
  have htried : tried = { desk with files, toClock := desk.toClock.next.next } :=
    congrArg Prod.snd (hcreated.symm.trans (hrun desk.out desk.err))
  rw [htried]
  exact ⟨rfl, location, hholds⟩

/-- No message is meant for a log file: they are printed, and there is no attempt. -/
structure Unasked (desk : Desk) (occurrences : List Occurrence) (outcome : Journal × Desk) :
    Prop where
  unmeant : meant true occurrences = []
  journal_eq : outcome.1 = ({} : Journal).turned occurrences
  desk_eq : outcome.2 = desk.goOn none true occurrences
  console_eq : outcome.2.console = (desk.printAll (messages occurrences)).console

/-- After `front` comes the first message that is meant for a log file.  It makes the journal
attempt to create one, and nothing that comes in `back` makes it attempt that again.  The clock has
not been looked at before; a file that has been created has the header of the second look, and each
entry has a look of its own. -/
structure AskedOnce (desk : Desk) (front : List Occurrence) (message : Message)
    (back : List Occurrence) (outcome : Journal × Desk) : Prop where
  unmeant : meant true front = []
  first_meant : (message.target.reachesFile && enabledAfter true front) = true
  attempted : outcome.1.attempted = true
  enabled_eq : outcome.1.enabled = enabledAfter true (front ++ .logged message :: back)
  directory_eq : outcome.1.directory = directoryAfter "logs" front
  path_eq : outcome.1.path? = (attempt desk front message).1.toOption
  /-- A failure is reported once, behind what the message prints. -/
  of_failed : ∀ cause tried, attempt desk front message = (.error cause, tried) →
    let printed := desk.printAll (messages front ++ [message])
    let warned := printed.write .err (unavailable cause ++ "\n")
    outcome.2 = (tried.write .err (unavailable cause ++ "\n")).goOn none true back ∧
      outcome.2.console = (warned.printAll (messages back)).console
  of_created : ∀ path tried, attempt desk front message = (.ok path, tried) →
    let before := desk.goOn none true front
    let all := front ++ .logged message :: back
    let opened := desk.toClock.next
    outcome.2.console = (desk.printAll (messages all)).console ∧
      (KeepLog path back →
        outcome.2 = (tried.enter (some path) message).goOn (some path) true back ∧
          ∃ location, outcome.2.files.HoldsFile path location
            (before.files.contentAt location ++ (Text.joinLines
              (header opened.time :: entries opened.next (meant true all))).toUTF8))

theorem unasked_of_unmeant (hunmeant : meant true occurrences = []) (desk : Desk) :
    Unasked desk occurrences (({} : Journal).live desk occurrences) := by
  have hlive : ({} : Journal).live desk occurrences =
      (({} : Journal).turned occurrences, desk.goOn none true occurrences) :=
    live_eq_goOn (.inr hunmeant)
  rw [hlive]
  exact ⟨hunmeant, rfl, rfl, desk.console_goOn none true occurrences⟩

/-- The attempt itself prints nothing, and nothing before it is anything but a message. -/
theorem console_attempt (hattempt : attempt desk front message = (result, tried)) :
    tried.console = (desk.printAll (messages front ++ [message])).console := by
  rw [console_createFile hattempt, Desk.printAll_append]
  exact Desk.console_printAll_congr (desk.console_goOn none true front) [message]

theorem meant_of_first_meant (hunmeant : meant true front = [])
    (hmeant : (message.target.reachesFile && enabledAfter true front) = true)
    (back : List Occurrence) :
    meant true (front ++ .logged message :: back) = message :: meant true back := by
  have henabled : enabledAfter true front = true := (Bool.and_eq_true_iff.mp hmeant).2
  rw [meant_append, hunmeant, meant, if_pos hmeant, henabled]
  rfl

/-- A log file that has been created holds the header, and then an entry for every message that is
meant for it, from the one that called for the attempt. -/
theorem holdsFile_of_created {path : String} (hunmeant : meant true front = [])
    (hmeant : (message.target.reachesFile && enabledAfter true front) = true)
    (hcreated : attempt desk front message = (.ok path, tried)) (hkept : KeepLog path back) :
    let before := desk.goOn none true front
    let all := front ++ .logged message :: back
    let opened := desk.toClock.next
    ∃ location, ((tried.enter (some path) message).goOn (some path) true back).files.HoldsFile
      path location (before.files.contentAt location ++ (Text.joinLines
        (header opened.time :: entries opened.next (meant true all))).toUTF8) := by
  intro before all opened
  have hclock : (before.printAll [message]).toClock = desk.toClock :=
    desk.clock_goOn_none true front
  obtain ⟨htried, location, hheader⟩ := exists_holdsFile_of_createFile hcreated
  rw [hclock] at htried hheader
  have hholds := Desk.holdsFile_goOn true hkept (Desk.holdsFile_enter hheader message)
  refine ⟨location, ?_⟩
  rw [Desk.clock_enter, htried, Text.append_toUTF8_joinLines,
    Text.append_toUTF8_joinLines] at hholds
  rw [meant_of_first_meant hunmeant hmeant]
  exact hholds

theorem askedOnce_of_first_meant (hunmeant : meant true front = [])
    (hmeant : (message.target.reachesFile && enabledAfter true front) = true) (desk : Desk)
    (back : List Occurrence) :
    AskedOnce desk front message back
      (({} : Journal).live desk (front ++ .logged message :: back)) := by
  cases hattempt : attempt desk front message with
  | mk result tried =>
    have hprinted := console_attempt hattempt
    rw [live_of_first_meant hunmeant hmeant hattempt back]
    constructor
    case unmeant => exact hunmeant
    case first_meant => exact hmeant
    case attempted => rfl
    case enabled_eq => rfl
    case directory_eq => rfl
    case path_eq => rw [hattempt]
    case of_failed =>
      intro cause after hfailed printed warned
      obtain ⟨rfl, rfl⟩ := Prod.mk.inj (hattempt.symm.trans hfailed)
      have hwarned : (tried.write .err (unavailable cause ++ "\n")).console = warned.console :=
        Desk.console_write_congr hprinted _ _
      refine ⟨rfl, (Desk.console_goOn _ _ _ back).trans ?_⟩
      exact Desk.console_printAll_congr hwarned _
    case of_created =>
      intro path after hcreated before all opened
      obtain ⟨rfl, rfl⟩ := Prod.mk.inj (hattempt.symm.trans hcreated)
      have hentered := (Desk.console_enter tried (some path) message).trans hprinted
      have hall : messages all = messages front ++ [message] ++ messages back := by
        rw [messages_append, messages, List.append_cons]
      refine ⟨(Desk.console_goOn _ _ _ back).trans ?_, ?_⟩
      · rw [hall, Desk.printAll_append]
        exact Desk.console_printAll_congr hentered _
      · intro hkept
        exact ⟨rfl, holdsFile_of_created hunmeant hmeant hcreated hkept⟩

theorem log_file_is_attempted_once (desk : Desk) (occurrences : List Occurrence) :
    let outcome := ({} : Journal).live desk occurrences
    (Unasked desk occurrences outcome ∨
      ∃ front message back, occurrences = front ++ .logged message :: back ∧
        AskedOnce desk front message back outcome) ∧
      ∀ level : Level, level.column.length = 5 ∧ (level.channel = .out ↔ level = .info) := by
  intro outcome
  constructor
  · by_cases hunmeant : meant true occurrences = []
    · exact .inl (unasked_of_unmeant hunmeant desk)
    · obtain ⟨front, message, back, rfl, hnone, hmeant⟩ := exists_first_meant hunmeant
      exact .inr ⟨front, message, back, rfl, askedOnce_of_first_meant hnone hmeant desk back⟩
  · intro level
    cases level <;> decide

/-- The directory that is chosen after the attempt is not the one of the log file. -/
example :
    let outcome := ({} : Journal).live { time := "noon", stamp := "12" }
      [.moved "/tmp/a", .switched false, .logged ⟨.info, "glob is I", .both⟩, .switched true,
        .logged ⟨.warn, "glob is known already", .file⟩, .moved "b"]
    outcome.1.directory = "/tmp/a" ∧ outcome.1.path? = some "/tmp/a/session-12.log" ∧
      outcome.2.console = ("glob is I\n", "") := by
  decide +kernel

end Journal
end RomanTrade
