import RomanTrade.Proofs.ConsoleOutput
import RomanTrade.Proofs.SingleLines

/-!
# The warning about the log file

The log file is created without a word, whatever has been printed so far.  If it cannot be created,
the journal prints one warning ahead of what the messages print, and after that it is settled.
-/

namespace RomanTrade

namespace FileFault

/-- The faults that have a wording of their own. -/
def IsPlain : FileFault → Prop
  | other _ => False
  | _ => True

theorem IsPlain.isLine_message {cause : FileFault} (h : cause.IsPlain) :
    Text.IsLine cause.message := by
  cases cause with
  | other => contradiction
  | _ => decide

end FileFault

/-- A result that is a failure only for a plain cause. -/
def FailsPlainly {α : Type} (result : Except FileFault α) : Prop :=
  ∀ cause, result = .error cause → cause.IsPlain

theorem failsPlainly_ok {α : Type} (value : α) : FailsPlainly (.ok value) := by
  intro cause h
  contradiction

theorem failsPlainly_error {α : Type} {cause : FileFault} (h : cause.IsPlain) :
    FailsPlainly (.error cause : Except FileFault α) := by
  intro other hother
  cases hother
  exact h

namespace FileTree

theorem failsPlainly_enter (location : Location) (name : String) :
    FailsPlainly (enter location name) := by
  unfold enter
  split
  · exact failsPlainly_error trivial
  · split
    · exact failsPlainly_ok _
    · split <;> exact failsPlainly_ok _

theorem failsPlainly_follow (tree : FileTree) (location : Location) (names : List String) :
    FailsPlainly (tree.follow location names) := by
  induction names generalizing location with
  | nil => exact failsPlainly_ok _
  | cons name rest ih =>
      unfold follow
      split
      · exact failsPlainly_error trivial
      · exact failsPlainly_error trivial
      · split
        next fault hentered =>
          exact failsPlainly_error (failsPlainly_enter location name fault hentered)
        next deeper _ => exact ih deeper

theorem isPlain_of_pathFault? {path : String} {fault : FileFault}
    (h : pathFault? path = some fault) : fault.IsPlain := by
  unfold pathFault? at h
  repeat' split at h
  all_goals first
    | contradiction
    | cases h; trivial

theorem failsPlainly_locateFile (tree : FileTree) (path : String) :
    FailsPlainly (tree.locateFile path) := by
  unfold locateFile
  split
  next fault hfault => exact failsPlainly_error (isPlain_of_pathFault? hfault)
  next =>
    split
    · split
      next fault hfollowed =>
        exact failsPlainly_error (tree.failsPlainly_follow _ _ fault hfollowed)
      next => exact failsPlainly_error trivial
    · exact tree.failsPlainly_follow _ _

theorem failsPlainly_append (tree : FileTree) (path text : String) :
    FailsPlainly (tree.append path text) := by
  unfold append update
  split
  next fault hlocated => exact failsPlainly_error (tree.failsPlainly_locateFile path fault hlocated)
  next =>
    split
    · exact failsPlainly_error trivial
    · exact failsPlainly_ok _
    · exact failsPlainly_ok _

theorem failsPlainly_makeDirectory (tree : FileTree) (path : String) :
    FailsPlainly (tree.makeDirectory path) := by
  unfold makeDirectory
  split
  next fault hfault => exact failsPlainly_error (isPlain_of_pathFault? hfault)
  next =>
    split
    next fault hfollowed => exact failsPlainly_error (tree.failsPlainly_follow _ _ fault hfollowed)
    next =>
      split
      · exact failsPlainly_error trivial
      · exact failsPlainly_ok _

end FileTree

namespace Desk

variable {α β : Type} {good : α → Prop}

/-- Actions on the files and the clock of a desk: whatever has been printed, they come to the same
good result and make the same changes, and they print nothing. -/
def Yields (good : α → Prop) (action : StateM Desk α) : Prop :=
  ∀ desk : Desk, ∃ result files clock, good result ∧ ∀ out err,
    action.run { desk with out, err } =
      (result, { desk with files, toClock := clock, out, err })

theorem yields_pure {value : α} (h : good value) : Yields good (pure value) :=
  fun desk => ⟨value, desk.files, desk.toClock, h, fun _ _ => rfl⟩

theorem Yields.bind {wanted : β → Prop} {first : StateM Desk α} {next : α → StateM Desk β}
    (hfirst : Yields good first) (hnext : ∀ result, good result → Yields wanted (next result)) :
    Yields wanted (first >>= next) := by
  intro desk
  obtain ⟨result, files, clock, hgood, hrun⟩ := hfirst desk
  obtain ⟨value, changed, moved, hwanted, hlast⟩ :=
    hnext result hgood { desk with files, toClock := clock }
  refine ⟨value, changed, moved, hwanted, ?_⟩
  intro out err
  rw [run_bind_of_run (hrun out err)]
  exact hlast out err

/-- A change of the file tree that is put in place, or that fails plainly. -/
theorem yields_withFiles {change : FileTree → Except FileFault FileTree}
    (hchange : ∀ tree, FailsPlainly (change tree)) :
    Yields FailsPlainly (fun desk : Desk => desk.withFiles (change desk.files)) := by
  intro desk
  cases hchanged : change desk.files with
  | error cause =>
      have hcause := hchange desk.files cause hchanged
      refine ⟨.error cause, desk.files, desk.toClock, failsPlainly_error hcause, ?_⟩
      intro out err
      change withFiles (change desk.files) _ = _
      rw [hchanged]
      rfl
  | ok files =>
      refine ⟨.ok (), files, desk.toClock, failsPlainly_ok (), ?_⟩
      intro out err
      change withFiles (change desk.files) _ = _
      rw [hchanged]
      rfl

theorem yields_makeDirectory (path : String) :
    Yields FailsPlainly (Host.makeDirectory path : StateM Desk (Except FileFault Unit)) :=
  yields_withFiles fun tree => tree.failsPlainly_makeDirectory path

theorem yields_appendFile (path text : String) :
    Yields FailsPlainly (Host.appendFile path text : StateM Desk (Except FileFault Unit)) :=
  yields_withFiles fun tree => tree.failsPlainly_append path text

theorem yields_isDirectory (path : String) :
    Yields (fun _ => True) (Host.isDirectory path : StateM Desk Bool) := by
  intro desk
  exact ⟨desk.files.isDirectory path, desk.files, desk.toClock, trivial, fun _ _ => rfl⟩

theorem yields_time : Yields (fun _ => True) (Host.time : StateM Desk String) := by
  intro desk
  exact ⟨desk.time, desk.files, desk.toClock.next, trivial, fun _ _ => rfl⟩

theorem yields_stamp : Yields (fun _ => True) (Host.stamp : StateM Desk String) := by
  intro desk
  exact ⟨desk.stamp, desk.files, desk.toClock.next, trivial, fun _ _ => rfl⟩

end Desk

namespace Host

open Desk

theorem yields_ensureDirectory (path : String) :
    Yields FailsPlainly (ensureDirectory path : StateM Desk (Except FileFault Unit)) := by
  unfold ensureDirectory
  apply (yields_makeDirectory path).bind
  intro made hmade
  cases made with
  | ok => exact yields_pure (failsPlainly_ok ())
  | error cause =>
      apply (yields_isDirectory path).bind
      intro there _
      cases there with
      | true => exact yields_pure (failsPlainly_ok ())
      | false => exact yields_pure (failsPlainly_error (hmade cause rfl))

theorem yields_ensureDirectoryBelow (path : String) (above : List String) :
    Yields FailsPlainly
      (ensureDirectoryBelow path above : StateM Desk (Except FileFault Unit)) := by
  induction above generalizing path with
  | nil => exact yields_ensureDirectory path
  | cons parent above ih =>
      unfold ensureDirectoryBelow
      apply (yields_ensureDirectory path).bind
      intro made hmade
      split
      next =>
        apply (ih parent).bind
        intro built hbuilt
        cases built with
        | error cause => exact yields_pure (failsPlainly_error (hbuilt cause rfl))
        | ok => exact yields_ensureDirectory path
      next => exact yields_pure hmade

theorem yields_makeDirectories (path : String) :
    Yields FailsPlainly (makeDirectories path : StateM Desk (Except FileFault Unit)) := by
  unfold makeDirectories
  split
  · exact yields_pure (failsPlainly_ok ())
  · exact yields_ensureDirectoryBelow path _

end Host

namespace Journal

open Desk

theorem yields_createFile (directory : String) :
    Yields FailsPlainly (createFile directory : StateM Desk (Except FileFault String)) := by
  unfold createFile
  apply (Host.yields_makeDirectories directory).bind
  intro made hmade
  cases made with
  | error cause => exact yields_pure (failsPlainly_error (hmade cause rfl))
  | ok =>
      apply yields_stamp.bind
      intro stamp _
      apply yields_time.bind
      intro time _
      apply (yields_appendFile _ _).bind
      intro appended happended
      cases appended with
      | error cause => exact yields_pure (failsPlainly_error (happended cause rfl))
      | ok => exact yields_pure (failsPlainly_ok _)

instance (journal : Journal) : Decidable journal.Settled :=
  inferInstanceAs (Decidable (_ → _))

/-- What an attempt to create the log file would come to. -/
def creation (journal : Journal) (desk : Desk) : Except FileFault String :=
  ((createFile journal.directory : StateM Desk (Except FileFault String)).run desk).1

/-- What the first message that is meant for the log file makes the journal print. -/
def warning (journal : Journal) (desk : Desk) : String :=
  if journal.Settled then ""
  else
    match journal.creation desk with
    | .ok _ => ""
    | .error cause => unavailable cause ++ "\n"

/-- What messages make the journal print besides their own lines. -/
def warningFor (journal : Journal) (messages : List Message) (desk : Desk) : String :=
  if messages.any (·.target.reachesFile) then journal.warning desk else ""

variable {journal : Journal}

/-- The attempt comes to the same and prints nothing, whatever has been printed before. -/
theorem run_createFile (journal : Journal) (desk : Desk) :
    FailsPlainly (journal.creation desk) ∧ ∃ files clock, ∀ out err,
      (createFile journal.directory : StateM Desk (Except FileFault String)).run
          { desk with out, err } =
        (journal.creation desk, { desk with files, toClock := clock, out, err }) := by
  obtain ⟨result, files, clock, hplain, hrun⟩ := yields_createFile journal.directory desk
  obtain rfl : journal.creation desk = result := congrArg Prod.fst (hrun desk.out desk.err)
  exact ⟨hplain, files, clock, hrun⟩

theorem isLine_unavailable {cause : FileFault} {desk : Desk}
    (hfailed : journal.creation desk = .error cause) : Text.IsLine (unavailable cause) := by
  have hcause := (journal.run_createFile desk).1 cause hfailed
  exact (Text.IsLine.append (by decide) hcause.isLine_message).append (by decide)

theorem warning_of_settled (hsettled : journal.Settled) (desk : Desk) :
    journal.warning desk = "" := by
  rw [warning, if_pos hsettled]

/-- The warning is one line, and only a log file that cannot be created calls for it. -/
theorem warning_cases (journal : Journal) (desk : Desk) :
    journal.warning desk = "" ∨ ∃ cause, journal.creation desk = .error cause ∧
      Text.IsLine (unavailable cause) ∧ journal.warning desk = unavailable cause ++ "\n" := by
  unfold warning
  split
  next => exact .inl rfl
  next =>
    split
    next => exact .inl rfl
    next cause hfailed => exact .inr ⟨cause, hfailed, isLine_unavailable hfailed, rfl⟩

theorem warningFor_of_settled (hsettled : journal.Settled) (messages : List Message)
    (desk : Desk) : journal.warningFor messages desk = "" := by
  unfold warningFor
  split
  · exact warning_of_settled hsettled desk
  · rfl

theorem warningFor_cases (journal : Journal) (messages : List Message) (desk : Desk) :
    journal.warningFor messages desk = "" ∨ ∃ cause, journal.creation desk = .error cause ∧
      Text.IsLine (unavailable cause) ∧
        journal.warningFor messages desk = unavailable cause ++ "\n" := by
  unfold warningFor
  split
  · exact journal.warning_cases desk
  · exact .inl rfl

/-- What has been printed does not matter to the warning. -/
theorem warning_printed (journal : Journal) (desk : Desk) (out err : String) :
    journal.warning { desk with out, err } = journal.warning desk := by
  obtain ⟨_, files, clock, hrun⟩ := journal.run_createFile desk
  have hsame : journal.creation { desk with out, err } = journal.creation desk := by
    rw [creation, hrun out err]
  unfold warning
  rw [hsame]

theorem warningFor_printed (journal : Journal) (messages : List Message) (desk : Desk)
    (out err : String) :
    journal.warningFor messages { desk with out, err } = journal.warningFor messages desk := by
  unfold warningFor
  rw [warning_printed]

theorem run_ensureFile_of_unsettled (hunsettled : ¬ journal.Settled) (desk : Desk) :
    ∃ next files clock, (journal.ensureFile : StateM Desk Journal).run desk =
      (next, { desk with
        files, toClock := clock, err := desk.err ++ journal.warning desk }) := by
  have hattempted : journal.attempted = false := by
    rw [← Bool.not_eq_true]
    exact fun hattempted => hunsettled fun _ => hattempted
  obtain ⟨_, files, clock, hrun⟩ := journal.run_createFile desk
  have hcreated := hrun desk.out desk.err
  rw [warning, if_neg hunsettled]
  cases hcreation : journal.creation desk with
  | error cause =>
      rw [hcreation] at hcreated
      exact ⟨_, files, clock, run_ensureFile_of_failed hattempted hcreated⟩
  | ok path =>
      rw [hcreation] at hcreated
      dsimp only
      rw [String.append_empty]
      exact ⟨_, files, clock, run_ensureFile_of_created hattempted hcreated⟩

/-- A message that is only meant for the log file prints the warning, if one is called for. -/
theorem run_record_of_noted (journal : Journal) {message : Message}
    (hnoted : message.target = .file) (desk : Desk) :
    ∃ next files clock, (journal.record message : StateM Desk Journal).run desk =
      (next, { desk with
        files, toClock := clock, err := desk.err ++ journal.warning desk }) := by
  have hsilent : desk.printAll [message] = desk := by
    rw [Desk.printAll_singleton, hnoted]
    rfl
  by_cases hsettled : journal.Settled
  · obtain ⟨files, clock, hrecorded⟩ := run_record_of_settled hsettled message desk
    refine ⟨journal, files, clock, ?_⟩
    rw [hrecorded, hsilent, warning_of_settled hsettled, String.append_empty]
  · have henabled : journal.enabled = true := (Classical.not_imp.mp hsettled).1
    rw [run_record, hsilent, if_pos (by rw [hnoted, henabled]; rfl)]
    obtain ⟨next, files, clock, hensured⟩ := run_ensureFile_of_unsettled hsettled desk
    unfold recordInFile
    rw [Desk.run_bind_of_run hensured]
    split
    next => exact ⟨next, files, clock, rfl⟩
    next path _ =>
      let opened : Desk :=
        { desk with files, toClock := clock, err := desk.err ++ journal.warning desk }
      obtain ⟨changed, moved, hentered⟩ := opened.exists_enter_eq (some path) message
      exact ⟨next, changed, moved, congrArg (Prod.mk next) hentered⟩

/-- Messages led by one that is only meant for the log file print the warning before their own
lines, and settle the journal. -/
theorem run_recordAll_of_noted (journal : Journal) {first : Message}
    (hnoted : first.target = .file) (rest : List Message) (desk : Desk) :
    ∃ next files clock, (journal.recordAll (first :: rest) : StateM Desk Journal).run desk =
      (next, { (desk.write .err (journal.warning desk)).printAll rest with
        files, toClock := clock }) ∧ next.Settled := by
  have hmeant : first.target.reachesFile = true := by
    rw [hnoted]
    rfl
  have hsettled : ((journal.record first : StateM Desk Journal).run desk).1.Settled :=
    settled_record (.inr hmeant) desk
  obtain ⟨next, files, clock, hfirst⟩ := journal.run_record_of_noted hnoted desk
  rw [hfirst] at hsettled
  obtain ⟨changed, moved, hrest⟩ := run_recordAll_of_settled hsettled rest
    { desk with files, toClock := clock, err := desk.err ++ journal.warning desk }
  refine ⟨next, changed, moved, ?_, hsettled⟩
  rw [run_recordAll_cons, hfirst]
  exact hrest

end Journal
end RomanTrade
