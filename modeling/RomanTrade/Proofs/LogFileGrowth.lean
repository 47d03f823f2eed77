import RomanTrade.Proofs.FileGrowth
import RomanTrade.Proofs.LogFileWarning

/-!
# What a journal creates

A journal makes its directory, with those above it that are missing, and writes one file in it.
Its actions let the file tree grow by nothing else, however many messages it records.
-/

namespace RomanTrade

namespace Journal

/-- The path of the log file that is created at a time. -/
def logPath (directory stamp : String) : String :=
  joinPath directory s!"session-{stamp}.log"

/-- The paths of a directory and of those that it lies in. -/
def directories (directory : String) : List String :=
  directory :: pathsAbove directory

end Journal

namespace Desk

variable {α β : Type} {clock : Clock} {paths written : List String} {pre : Desk → Prop}
  {post : α → Desk → Prop}

/-- Actions that let the file tree of a desk grow, and that come to what `post` says of their result
and of the desk if the desk was as `pre` says. -/
def Grows (paths written : List String) (pre : Desk → Prop) (post : α → Desk → Prop)
    (action : StateM Desk α) : Prop :=
  ∀ desk, pre desk → post (action.run desk).1 (action.run desk).2 ∧
    desk.files.Grown paths written (action.run desk).2.files

theorem grows_pure {value : α} (h : ∀ desk, pre desk → post value desk) :
    Grows paths written pre post (pure value) :=
  fun desk hpre => ⟨h desk hpre, .refl paths written desk.files⟩

theorem Grows.bind {wanted : β → Desk → Prop} {first : StateM Desk α} {next : α → StateM Desk β}
    (hfirst : Grows paths written pre post first)
    (hnext : ∀ result, Grows paths written (post result) wanted (next result)) :
    Grows paths written pre wanted (first >>= next) := by
  intro desk hpre
  obtain ⟨hpost, hgrown⟩ := hfirst desk hpre
  obtain ⟨hwanted, hlater⟩ := hnext _ _ hpost
  rw [StateT.run_bind]
  exact ⟨hwanted, hgrown.trans hlater⟩

theorem Grows.mono {morePaths moreWritten : List String} {action : StateM Desk α}
    (hgrows : Grows paths written pre post action) (hpaths : paths ⊆ morePaths)
    (hwritten : written ⊆ moreWritten) : Grows morePaths moreWritten pre post action := by
  intro desk hpre
  obtain ⟨hpost, hgrown⟩ := hgrows desk hpre
  exact ⟨hpost, hgrown.mono hpaths hwritten⟩

/-- What is looked at or printed leaves the files alone. -/
theorem grows_of_files_eq {action : StateM Desk α}
    (hpost : ∀ desk, pre desk → post (action.run desk).1 (action.run desk).2)
    (hfiles : ∀ desk, (action.run desk).2.files = desk.files) :
    Grows paths written pre post action := by
  intro desk hpre
  refine ⟨hpost desk hpre, ?_⟩
  rw [hfiles]
  exact .refl paths written desk.files

/-- What holds before an action may say something that has nothing to do with the desk. -/
theorem grows_of_imp {fact : Prop} {tighter : Desk → Prop} {action : StateM Desk α}
    (himp : ∀ desk, tighter desk → fact ∧ pre desk)
    (h : fact → Grows paths written pre post action) : Grows paths written tighter post action :=
  fun desk htighter => h (himp desk htighter).1 desk (himp desk htighter).2

theorem grows_of_fact {fact : Prop} {action : StateM Desk α}
    (h : fact → Grows paths written (fun _ => True) post action) :
    Grows paths written (fun _ => fact) post action :=
  grows_of_imp (fun _ hfact => ⟨hfact, trivial⟩) h

def Shows (clock : Clock) (desk : Desk) : Prop :=
  desk.toClock = clock

theorem grows_withFiles {change : FileTree → Except FileFault FileTree}
    (hchange : ∀ tree changed, change tree = .ok changed → tree.Grown paths written changed) :
    Grows paths written (Shows clock) (fun _ => Shows clock)
      (fun desk : Desk => desk.withFiles (change desk.files)) := by
  intro desk hshows
  change Shows clock (desk.withFiles (change desk.files)).2 ∧
    desk.files.Grown paths written (desk.withFiles (change desk.files)).2.files
  cases hchanged : change desk.files with
  | error cause => exact ⟨hshows, .refl paths written desk.files⟩
  | ok files => exact ⟨hshows, hchange desk.files files hchanged⟩

end Desk

namespace Host

open Desk

variable {clock : Clock}

theorem grows_makeDirectory (path : String) :
    Grows [path] [] (Shows clock) (fun _ => Shows clock)
      (makeDirectory path : StateM Desk (Except FileFault Unit)) :=
  grows_withFiles fun _ _ => FileTree.grown_makeDirectory

theorem grows_ensureDirectory (path : String) :
    Grows [path] [] (Shows clock) (fun _ => Shows clock)
      (ensureDirectory path : StateM Desk (Except FileFault Unit)) := by
  unfold ensureDirectory
  apply (grows_makeDirectory path).bind
  intro made
  cases made with
  | ok => exact grows_pure fun _ => id
  | error cause =>
      have hlook : Grows [path] [] (Shows clock) (fun _ => Shows clock)
          (isDirectory path : StateM Desk Bool) :=
        grows_of_files_eq (fun _ => id) (fun _ => rfl)
      apply hlook.bind
      intro there
      cases there with
      | true => exact grows_pure fun _ => id
      | false => exact grows_pure fun _ => id

theorem grows_ensureDirectoryBelow (path : String) (above : List String) :
    Grows (path :: above) [] (Shows clock) (fun _ => Shows clock)
      (ensureDirectoryBelow path above : StateM Desk (Except FileFault Unit)) := by
  induction above generalizing path with
  | nil => exact grows_ensureDirectory path
  | cons parent above ih =>
      have hpath : Grows (path :: parent :: above) [] (Shows clock) (fun _ => Shows clock)
          (ensureDirectory path : StateM Desk (Except FileFault Unit)) :=
        (grows_ensureDirectory path).mono (by simp) (List.Subset.refl _)
      unfold ensureDirectoryBelow
      apply hpath.bind
      intro made
      split
      next =>
        have habove : Grows (path :: parent :: above) [] (Shows clock) (fun _ => Shows clock)
            (ensureDirectoryBelow parent above : StateM Desk (Except FileFault Unit)) :=
          (ih parent).mono (List.subset_cons_self _ _) (List.Subset.refl _)
        apply habove.bind
        intro built
        cases built with
        | error cause => exact grows_pure fun _ => id
        | ok => exact hpath
      next => exact grows_pure fun _ => id

/-- Making directories takes no look at the clock. -/
theorem grows_makeDirectories (path : String) :
    Grows (Journal.directories path) [] (Shows clock) (fun _ => Shows clock)
      (makeDirectories path : StateM Desk (Except FileFault Unit)) := by
  unfold makeDirectories
  split
  · exact grows_pure fun _ => id
  · exact grows_ensureDirectoryBelow path _

end Host

namespace Journal

open Desk

variable {directory : String} {clock : Clock}

theorem grows_time {paths written : List String} {pre : Desk → Prop} :
    Grows paths written pre (fun _ _ => True) (Host.time : StateM Desk String) :=
  grows_of_files_eq (fun _ _ => trivial) (fun _ => rfl)

/-- Adding to the log file is one of the things that a journal may do. -/
theorem grows_appendLog {pre : Desk → Prop} (directory stamp text : String) :
    Grows (directories directory) [logPath directory stamp] pre (fun _ _ => True)
      (Host.appendFile (logPath directory stamp) text : StateM Desk (Except FileFault Unit)) := by
  intro desk _
  have hgrows : Grows [] [logPath directory stamp] (Shows desk.toClock)
      (fun _ => Shows desk.toClock)
      (Host.appendFile (logPath directory stamp) text : StateM Desk (Except FileFault Unit)) :=
    grows_withFiles fun _ _ => FileTree.grown_append
  obtain ⟨_, hgrown⟩ := hgrows desk rfl
  exact ⟨trivial, hgrown.mono (List.nil_subset _) (List.Subset.refl _)⟩

/-- The log file is named after the first look at the clock. -/
theorem grows_createFile (directory : String) :
    Grows (directories directory) [logPath directory clock.stamp] (Shows clock)
      (fun created _ => ∀ path, created = .ok path → path = logPath directory clock.stamp)
      (createFile directory : StateM Desk (Except FileFault String)) := by
  have hmakes : Grows (directories directory) [logPath directory clock.stamp] (Shows clock)
      (fun _ => Shows clock)
      (Host.makeDirectories directory : StateM Desk (Except FileFault Unit)) :=
    (Host.grows_makeDirectories directory).mono (List.Subset.refl _) (List.nil_subset _)
  unfold createFile
  apply hmakes.bind
  intro made
  cases made with
  | error cause => exact grows_pure fun _ _ path hcreated => nomatch hcreated
  | ok =>
      have hstamp : Grows (directories directory) [logPath directory clock.stamp] (Shows clock)
          (fun now _ => now = clock.stamp) (Host.stamp : StateM Desk String) :=
        grows_of_files_eq (fun _ hshows => congrArg Clock.stamp hshows) (fun _ => rfl)
      apply hstamp.bind
      intro now
      apply grows_of_fact
      rintro rfl
      apply grows_time.bind
      intro time
      apply (grows_appendLog directory clock.stamp (header time ++ "\n")).bind
      intro appended
      cases appended with
      | error cause => exact grows_pure fun _ _ path hcreated => nomatch hcreated
      | ok => exact grows_pure fun _ _ path hcreated => (Except.ok.inj hcreated).symm

/-- A journal that is past its attempt and has no log file but the one named after a clock. -/
structure Logs (directory : String) (clock : Clock) (journal : Journal) : Prop where
  attempted : journal.attempted = true
  path_eq : ∀ path, journal.path? = some path → path = logPath directory clock.stamp

/-- Until a journal attempts to create its log file, the clock that it will be named after stays. -/
structure LogsIn (directory : String) (clock : Clock) (journal : Journal) (desk : Desk) : Prop where
  path_eq : ∀ path, journal.path? = some path → path = logPath directory clock.stamp
  pending : journal.attempted = false → journal.directory = directory ∧ Shows clock desk

variable {journal : Journal}

theorem Logs.logsIn (hlogs : journal.Logs directory clock) (desk : Desk) :
    journal.LogsIn directory clock desk := by
  refine ⟨hlogs.path_eq, ?_⟩
  intro hunattempted
  rw [hlogs.attempted] at hunattempted
  contradiction

theorem grows_ensureFile (journal : Journal) :
    Grows (directories directory) [logPath directory clock.stamp] (journal.LogsIn directory clock)
      (fun next _ => next.Logs directory clock) (journal.ensureFile : StateM Desk Journal) := by
  unfold ensureFile
  split
  next hattempted => exact grows_pure fun _ hlogs => ⟨hattempted, hlogs.path_eq⟩
  next hunattempted =>
    rw [Bool.not_eq_true] at hunattempted
    have hpending : ∀ desk, journal.LogsIn directory clock desk →
        (journal.directory = directory ∧
          ∀ path, journal.path? = some path → path = logPath directory clock.stamp) ∧
        Shows clock desk := by
      intro desk hlogs
      obtain ⟨hdirectory, hshows⟩ := hlogs.pending hunattempted
      exact ⟨⟨hdirectory, hlogs.path_eq⟩, hshows⟩
    apply grows_of_imp hpending
    rintro ⟨rfl, hpath⟩
    apply (grows_createFile journal.directory).bind
    intro created
    cases created with
    | ok path =>
        apply grows_pure
        intro _ hcreated
        refine ⟨rfl, ?_⟩
        intro other hother
        cases hother
        exact hcreated path rfl
    | error cause =>
        have hwarned : Grows (directories journal.directory) [logPath journal.directory clock.stamp]
            (fun _ => ∀ path, Except.error cause = Except.ok path →
              path = logPath journal.directory clock.stamp) (fun _ _ => True)
            (Host.writeLine .err (unavailable cause) : StateM Desk Unit) :=
          grows_of_files_eq (fun _ _ => trivial) (fun _ => rfl)
        apply hwarned.bind
        intro _
        exact grows_pure fun _ _ => ⟨rfl, hpath⟩

theorem grows_recordInFile (journal : Journal) (message : Message) :
    Grows (directories directory) [logPath directory clock.stamp] (journal.LogsIn directory clock)
      (LogsIn directory clock) (journal.recordInFile message : StateM Desk Journal) := by
  unfold recordInFile
  apply journal.grows_ensureFile.bind
  intro next
  apply grows_of_fact
  intro hlogs
  cases hpath : next.path? with
  | none => exact grows_pure fun desk _ => hlogs.logsIn desk
  | some path =>
      rw [hlogs.path_eq path hpath]
      apply grows_time.bind
      intro time
      apply (grows_appendLog directory clock.stamp _).bind
      intro _
      exact grows_pure fun desk _ => hlogs.logsIn desk

theorem grows_record (journal : Journal) (message : Message) :
    Grows (directories directory) [logPath directory clock.stamp] (journal.LogsIn directory clock)
      (LogsIn directory clock) (journal.record message : StateM Desk Journal) := by
  intro desk hlogs
  rw [run_record]
  split
  next => exact journal.grows_recordInFile message (desk.printAll [message]) ⟨hlogs.1, hlogs.2⟩
  next => exact ⟨⟨hlogs.1, hlogs.2⟩, .refl _ _ desk.files⟩

/-- Recording creates no more than the directories and the log file, and keeps to them. -/
theorem grows_recordAll (journal : Journal) (messages : List Message) :
    Grows (directories directory) [logPath directory clock.stamp] (journal.LogsIn directory clock)
      (LogsIn directory clock) (journal.recordAll messages : StateM Desk Journal) := by
  induction messages generalizing journal with
  | nil => exact grows_pure fun _ => id
  | cons message rest ih => exact (journal.grows_record message).bind ih

end Journal
end RomanTrade
