import RomanTrade.Host.Desk
import RomanTrade.Journal

/-!
# What messages print

A message that is meant for the console prints one line on the channel of its level.  A journal
prints nothing else, except once: when it first needs a log file and cannot create it.
-/

namespace RomanTrade

namespace Message

/-- What a message prints on a channel. -/
def printed (channel : Channel) (message : Message) : String :=
  if message.target.reachesConsole ∧ message.level.channel = channel then message.text ++ "\n"
  else ""

end Message

namespace Desk

/-- The desk after messages have been printed. -/
def printAll (desk : Desk) (messages : List Message) : Desk :=
  { desk with
    out := desk.out ++ String.join (messages.map (·.printed .out))
    err := desk.err ++ String.join (messages.map (·.printed .err)) }

@[simp] theorem printAll_nil (desk : Desk) : desk.printAll [] = desk := by
  simp [printAll]

theorem printAll_append (desk : Desk) (front back : List Message) :
    desk.printAll (front ++ back) = (desk.printAll front).printAll back := by
  simp [printAll, String.append_assoc]

theorem printAll_cons (desk : Desk) (message : Message) (rest : List Message) :
    desk.printAll (message :: rest) = (desk.printAll [message]).printAll rest := by
  simp [printAll, String.append_assoc]

/-- A message is printed on one channel, or on none. -/
theorem printAll_singleton (desk : Desk) (message : Message) :
    desk.printAll [message] =
      if message.target.reachesConsole then desk.write message.level.channel (message.text ++ "\n")
      else desk := by
  obtain ⟨level, text, target⟩ := message
  cases hconsole : target.reachesConsole with
  | false => simp [printAll, Message.printed, hconsole]
  | true => cases level <;> simp [printAll, Message.printed, hconsole, Level.channel, write]

theorem exists_files_withFiles (result : Except FileFault FileTree) (desk : Desk) :
    ∃ files, (desk.withFiles result).2 = { desk with files } := by
  cases result with
  | error => exact ⟨desk.files, rfl⟩
  | ok files => exact ⟨files, rfl⟩

/-- The desk after a message has been entered in the log file, if there is one.  The clock is looked
at for the entry. -/
def enter (desk : Desk) (path? : Option String) (message : Message) : Desk :=
  match path? with
  | none => desk
  | some path =>
    let entry := Journal.line desk.time message.level message.text ++ "\n"
    (desk.tick.withFiles (desk.files.append path entry)).2

theorem exists_enter_some_eq (desk : Desk) (path : String) (message : Message) :
    ∃ files, desk.enter (some path) message =
      { desk with files, toClock := desk.toClock.next } :=
  exists_files_withFiles _ desk.tick

theorem exists_enter_eq (desk : Desk) (path? : Option String) (message : Message) :
    ∃ files clock, desk.enter path? message = { desk with files, toClock := clock } := by
  cases path? with
  | none => exact ⟨desk.files, desk.toClock, rfl⟩
  | some path =>
      obtain ⟨files, hentered⟩ := desk.exists_enter_some_eq path message
      exact ⟨files, desk.toClock.next, hentered⟩

theorem run_bind_of_run {α β : Type} {first : StateM Desk α} {next : α → StateM Desk β} {result : α}
    {before after : Desk} (h : first.run before = (result, after)) :
    (first >>= next).run before = (next result).run after := by
  rw [StateT.run_bind, h]
  rfl

end Desk

namespace Journal

/-- Whether the journal is past the only attempt to create a log file, or needs none. -/
def Settled (journal : Journal) : Prop :=
  journal.enabled = true → journal.attempted = true

variable {journal : Journal} {message : Message} {desk tried : Desk}

theorem run_record (journal : Journal) (message : Message) (desk : Desk) :
    (journal.record message : StateM Desk Journal).run desk =
      if message.target.reachesFile && journal.enabled then
        (journal.recordInFile message : StateM Desk Journal).run (desk.printAll [message])
      else (journal, desk.printAll [message]) := by
  rw [Desk.printAll_singleton]
  unfold record
  split
  · split <;> rfl
  · split <;> rfl

theorem run_ensureFile_of_attempted (hattempted : journal.attempted = true) (desk : Desk) :
    (journal.ensureFile : StateM Desk Journal).run desk = (journal, desk) := by
  unfold ensureFile
  rw [if_pos hattempted]
  rfl

/-- The attempt that has failed is reported. -/
theorem run_ensureFile_of_failed {cause : FileFault} (hunattempted : journal.attempted = false)
    (hfailed : (createFile journal.directory : StateM Desk (Except FileFault String)).run desk =
      (.error cause, tried)) :
    (journal.ensureFile : StateM Desk Journal).run desk =
      ({ journal with attempted := true }, tried.write .err (unavailable cause ++ "\n")) := by
  unfold ensureFile
  simp only [hunattempted, Bool.false_eq_true, if_false]
  rw [Desk.run_bind_of_run hfailed]
  rfl

theorem run_ensureFile_of_created {path : String} (hunattempted : journal.attempted = false)
    (hcreated : (createFile journal.directory : StateM Desk (Except FileFault String)).run desk =
      (.ok path, tried)) :
    (journal.ensureFile : StateM Desk Journal).run desk =
      ({ journal with attempted := true, path? := some path }, tried) := by
  unfold ensureFile
  simp only [hunattempted, Bool.false_eq_true, if_false]
  rw [Desk.run_bind_of_run hcreated]
  rfl

/-- After the attempt a record in the log file enters the message, and changes nothing else. -/
theorem run_recordInFile_of_attempted (hattempted : journal.attempted = true) (message : Message)
    (desk : Desk) :
    (journal.recordInFile message : StateM Desk Journal).run desk =
      (journal, desk.enter journal.path? message) := by
  unfold recordInFile
  rw [Desk.run_bind_of_run (run_ensureFile_of_attempted hattempted desk)]
  cases hpath : journal.path? with
  | none => rfl
  | some path => rfl

theorem run_record_of_attempted (hattempted : journal.attempted = true)
    (hmeant : (message.target.reachesFile && journal.enabled) = true) (desk : Desk) :
    (journal.record message : StateM Desk Journal).run desk =
      (journal, (desk.printAll [message]).enter journal.path? message) := by
  rw [run_record, if_pos hmeant, run_recordInFile_of_attempted hattempted]

/-- The record that creates the log file is the first one in it. -/
theorem run_record_of_opened {path : String} (hunattempted : journal.attempted = false)
    (hmeant : (message.target.reachesFile && journal.enabled) = true)
    (hcreated : (createFile journal.directory : StateM Desk (Except FileFault String)).run
      (desk.printAll [message]) = (.ok path, tried)) :
    (journal.record message : StateM Desk Journal).run desk =
      ({ journal with attempted := true, path? := some path },
        tried.enter (some path) message) := by
  rw [run_record, if_pos hmeant]
  unfold recordInFile
  rw [Desk.run_bind_of_run (run_ensureFile_of_created hunattempted hcreated)]
  rfl

/-- The record that a failed attempt is made for is not kept. -/
theorem run_record_of_failed {cause : FileFault} (hunattempted : journal.attempted = false)
    (hpath : journal.path? = none)
    (hmeant : (message.target.reachesFile && journal.enabled) = true)
    (hfailed : (createFile journal.directory : StateM Desk (Except FileFault String)).run
      (desk.printAll [message]) = (.error cause, tried)) :
    (journal.record message : StateM Desk Journal).run desk =
      ({ journal with attempted := true }, tried.write .err (unavailable cause ++ "\n")) := by
  rw [run_record, if_pos hmeant]
  unfold recordInFile
  rw [Desk.run_bind_of_run (run_ensureFile_of_failed hunattempted hfailed)]
  simp only [hpath]
  rfl

theorem attempted_ensureFile (journal : Journal) (desk : Desk) :
    ((journal.ensureFile : StateM Desk Journal).run desk).1.attempted = true := by
  cases hattempted : journal.attempted with
  | true =>
      rw [run_ensureFile_of_attempted hattempted]
      exact hattempted
  | false =>
      cases hcreated :
          (createFile journal.directory : StateM Desk (Except FileFault String)).run desk with
      | mk created after =>
        cases created with
        | ok path => rw [run_ensureFile_of_created hattempted hcreated]
        | error cause => rw [run_ensureFile_of_failed hattempted hcreated]

theorem journal_recordInFile (journal : Journal) (message : Message) (desk : Desk) :
    ((journal.recordInFile message : StateM Desk Journal).run desk).1 =
      ((journal.ensureFile : StateM Desk Journal).run desk).1 := by
  cases hensured : (journal.ensureFile : StateM Desk Journal).run desk with
  | mk ensured after =>
    unfold recordInFile
    rw [Desk.run_bind_of_run hensured]
    split
    · rfl
    · rfl

/-- A record keeps a journal settled, and one that is meant for the log file settles it. -/
theorem settled_record (h : journal.Settled ∨ message.target.reachesFile = true) (desk : Desk) :
    ((journal.record message : StateM Desk Journal).run desk).1.Settled := by
  rw [run_record]
  split
  next =>
    intro _
    rw [journal_recordInFile]
    exact attempted_ensureFile journal _
  next hkept =>
    rcases h with hsettled | hmeant
    · exact hsettled
    · intro henabled
      exact absurd (Bool.and_eq_true_iff.mpr ⟨hmeant, henabled⟩) hkept

theorem run_recordAll_cons (journal : Journal) (message : Message) (rest : List Message)
    (desk : Desk) :
    (journal.recordAll (message :: rest) : StateM Desk Journal).run desk =
      let (next, after) := (journal.record message : StateM Desk Journal).run desk
      (next.recordAll rest : StateM Desk Journal).run after := rfl

theorem settled_recordAll {messages : List Message}
    (h : journal.Settled ∨ ∃ message ∈ messages, message.target.reachesFile = true) (desk : Desk) :
    ((journal.recordAll messages : StateM Desk Journal).run desk).1.Settled := by
  induction messages generalizing journal desk with
  | nil => exact h.resolve_right (by simp)
  | cons message rest ih =>
      rw [run_recordAll_cons]
      refine ih ?_ _
      simp only [List.mem_cons, exists_eq_or_imp, ← or_assoc] at h
      exact h.imp_left fun h => settled_record h desk

/-- A settled journal prints the messages and nothing else. -/
theorem run_record_of_settled (hsettled : journal.Settled) (message : Message) (desk : Desk) :
    ∃ files clock, (journal.record message : StateM Desk Journal).run desk =
      (journal, { desk.printAll [message] with files, toClock := clock }) := by
  by_cases hmeant : (message.target.reachesFile && journal.enabled) = true
  · have hattempted := hsettled (Bool.and_eq_true_iff.mp hmeant).2
    obtain ⟨files, clock, hentered⟩ :=
      (desk.printAll [message]).exists_enter_eq journal.path? message
    refine ⟨files, clock, ?_⟩
    rw [run_record_of_attempted hattempted hmeant, hentered]
  · refine ⟨desk.files, desk.toClock, ?_⟩
    rw [run_record, if_neg hmeant]
    rfl

theorem run_recordAll_of_settled (hsettled : journal.Settled) (messages : List Message)
    (desk : Desk) :
    ∃ files clock, (journal.recordAll messages : StateM Desk Journal).run desk =
      (journal, { desk.printAll messages with files, toClock := clock }) := by
  induction messages generalizing desk with
  | nil => exact ⟨desk.files, desk.toClock, by rw [Desk.printAll_nil]; rfl⟩
  | cons message rest ih =>
      obtain ⟨changed, moved, hfirst⟩ := run_record_of_settled hsettled message desk
      obtain ⟨files, clock, hrest⟩ :=
        ih { desk.printAll [message] with files := changed, toClock := moved }
      refine ⟨files, clock, ?_⟩
      rw [run_recordAll_cons, hfirst, desk.printAll_cons message rest]
      exact hrest

end Journal
end RomanTrade
