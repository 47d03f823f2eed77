import RomanTrade.Proofs.LogFileGrowth

/-!
# What a log file holds

A log file that could be created takes every record that is meant for it: its header and then one
entry for each message, behind what the file held before.
-/

namespace RomanTrade

/-- Lines are written one after the other. -/
theorem Text.append_toUTF8_joinLines (content : ByteArray) (first : String) (rest : List String) :
    content ++ (first ++ "\n").toUTF8 ++ (Text.joinLines rest).toUTF8 =
      content ++ (Text.joinLines (first :: rest)).toUTF8 := by
  rw [Text.joinLines_cons, ByteArray.append_assoc]
  exact congrArg (content ++ ·) String.toByteArray_append.symm

namespace FileTree

variable {tree written : FileTree} {path : String} {location : Location} {content : ByteArray}

/-- The path is one of a file, which is there with this content. -/
structure HoldsFile (tree : FileTree) (path : String) (location : Location)
    (content : ByteArray) : Prop where
  leads : tree.locateFile path = .ok location
  node : tree.node? location = some (.file content)

theorem locateFile_of_kept {after : FileTree}
    (hkept : ∀ other, tree.node? other = some .directory → after.node? other = some .directory)
    (hworking : after.working = tree.working) (h : tree.locateFile path = .ok location) :
    after.locateFile path = .ok location := by
  unfold locateFile at h ⊢
  rw [start_of_working hworking]
  split at h
  · contradiction
  · split at h
    · split at h <;> contradiction
    next hopen =>
      rw [if_neg hopen]
      exact follow_of_kept hkept h

theorem holdsFile_put (hleads : tree.locateFile path = .ok location)
    (hfree : tree.node? location ≠ some .directory) (content : ByteArray) :
    (tree.put location (.file content)).HoldsFile path location content := by
  constructor
  · exact locateFile_of_kept (directory_put hfree _) rfl hleads
  · rw [node?_put (ne_nil_of_no_directory hfree), if_pos rfl]

theorem exists_holdsFile_of_append {text : String} (h : tree.append path text = .ok written) :
    ∃ location, written.HoldsFile path location (tree.contentAt location ++ text.toUTF8) := by
  obtain ⟨location, hleads, hfree, rfl⟩ := eq_put_of_update h
  exact ⟨location, holdsFile_put hleads hfree _⟩

theorem HoldsFile.append (h : tree.HoldsFile path location content) (text : String) :
    ∃ written, tree.append path text = .ok written ∧
      written.HoldsFile path location (content ++ text.toUTF8) := by
  have hfree : tree.node? location ≠ some .directory := by simp [h.node]
  have happended := update_of_locateFile (fun old => old ++ text.toUTF8) h.leads hfree
  rw [contentAt_of_file h.node] at happended
  exact ⟨_, happended, holdsFile_put h.leads hfree _⟩

end FileTree

theorem Desk.run_appendFile {desk : Desk} {path text : String} {files : FileTree}
    (happended : desk.files.append path text = .ok files) :
    (Host.appendFile path text : StateM Desk (Except FileFault Unit)).run desk =
      (.ok (), { desk with files }) := by
  change desk.withFiles (desk.files.append path text) = _
  rw [happended]
  rfl

/-- A message that is entered in a log file that is there stands at its end. -/
theorem Desk.holdsFile_enter {desk : Desk} {path : String} {location : Location}
    {content : ByteArray} (hholds : desk.files.HoldsFile path location content)
    (message : Message) :
    (desk.enter (some path) message).files.HoldsFile path location
      (content ++ (Journal.line desk.time message.level message.text ++ "\n").toUTF8) := by
  obtain ⟨files, happended, hafter⟩ :=
    hholds.append (Journal.line desk.time message.level message.text ++ "\n")
  rw [Desk.enter, happended]
  exact hafter

namespace Journal

variable {journal : Journal} {path : String} {location : Location} {content : ByteArray}
  {desk : Desk}

/-- The lines that messages make in the log file.  The clock goes on from each to the next. -/
def entries (clock : Clock) : List Message → List String
  | [] => []
  | message :: rest => line clock.time message.level message.text :: entries clock.next rest

/-- A journal that has created its log file. -/
structure WritesTo (path : String) (journal : Journal) : Prop where
  enabled : journal.enabled = true
  attempted : journal.attempted = true
  path_eq : journal.path? = some path

theorem WritesTo.run_record (hwrites : journal.WritesTo path) {message : Message}
    (hmeant : message.target.reachesFile = true)
    (hholds : desk.files.HoldsFile path location content) :
    ∃ files, (journal.record message : StateM Desk Journal).run desk =
        (journal, { desk.printAll [message] with files, toClock := desk.toClock.next }) ∧
      files.HoldsFile path location
        (content ++ (line desk.time message.level message.text ++ "\n").toUTF8) := by
  let shown : Desk := desk.printAll [message]
  have hshown : shown.files.HoldsFile path location content := hholds
  have hwanted : (message.target.reachesFile && journal.enabled) = true :=
    Bool.and_eq_true_iff.mpr ⟨hmeant, hwrites.enabled⟩
  obtain ⟨files, hentered⟩ := shown.exists_enter_some_eq path message
  have hafter := Desk.holdsFile_enter hshown message
  rw [hentered] at hafter
  refine ⟨files, ?_, hafter⟩
  rw [run_record_of_attempted hwrites.attempted hwanted, hwrites.path_eq, hentered]
  rfl

/-- Each message adds its line to the log file, in the order in which the messages come. -/
theorem WritesTo.run_recordAll (hwrites : journal.WritesTo path) {messages : List Message}
    (hmeant : ∀ message ∈ messages, message.target.reachesFile = true)
    (hholds : desk.files.HoldsFile path location content) :
    ∃ files clock, (journal.recordAll messages : StateM Desk Journal).run desk =
        (journal, { desk.printAll messages with files, toClock := clock }) ∧
      files.HoldsFile path location
        (content ++ (Text.joinLines (entries desk.toClock messages)).toUTF8) := by
  induction messages generalizing desk content with
  | nil =>
      refine ⟨desk.files, desk.toClock, ?_, ?_⟩
      · rw [Desk.printAll_nil]
        rfl
      · have hnothing : content ++ (Text.joinLines (entries desk.toClock [])).toUTF8 = content :=
          ByteArray.append_empty
        rw [hnothing]
        exact hholds
  | cons message rest ih =>
      rw [List.forall_mem_cons] at hmeant
      obtain ⟨middle, hfirst, hmiddle⟩ := hwrites.run_record hmeant.1 hholds
      let between : Desk :=
        { desk.printAll [message] with files := middle, toClock := desk.toClock.next }
      have hbetween : between.files.HoldsFile path location _ := hmiddle
      obtain ⟨files, clock, hrest, hafter⟩ := ih hmeant.2 hbetween
      refine ⟨files, clock, ?_, ?_⟩
      · rw [run_recordAll_cons, hfirst, desk.printAll_cons message rest]
        exact hrest
      · rw [Text.append_toUTF8_joinLines] at hafter
        exact hafter

/-- Once the directories are there, the first look at the clock names the log file, and the header
is appended there with what the second look finds. -/
theorem run_createFile_of_made {directory : String} {before : Desk}
    (hmade : (Host.makeDirectories directory : StateM Desk (Except FileFault Unit)).run before =
      (.ok (), desk)) :
    (createFile directory : StateM Desk (Except FileFault String)).run before =
      let log := logPath directory desk.stamp
      match desk.files.append log (header desk.toClock.next.time ++ "\n") with
      | .error cause => (.error cause, desk.tick.tick)
      | .ok files => (.ok log, { desk with files, toClock := desk.toClock.next.next }) := by
  have hstamp : (Host.stamp : StateM Desk String).run desk = (desk.stamp, desk.tick) := rfl
  have htime : (Host.time : StateM Desk String).run desk.tick =
      (desk.toClock.next.time, desk.tick.tick) := rfl
  unfold createFile
  rw [Desk.run_bind_of_run hmade]
  dsimp only
  rw [Desk.run_bind_of_run hstamp, Desk.run_bind_of_run htime, ← logPath]
  cases happended : desk.files.append (logPath directory desk.stamp)
      (header desk.toClock.next.time ++ "\n") with
  | error cause =>
      have hfailed : (Host.appendFile (logPath directory desk.stamp)
          (header desk.toClock.next.time ++ "\n") : StateM Desk (Except FileFault Unit)).run
            desk.tick.tick = (.error cause, desk.tick.tick) := by
        change desk.tick.tick.withFiles (desk.files.append _ _) = _
        rw [happended]
        rfl
      rw [Desk.run_bind_of_run hfailed]
      rfl
  | ok files =>
      have hwritten : desk.tick.tick.files.append (logPath directory desk.stamp)
          (header desk.toClock.next.time ++ "\n") = .ok files := happended
      rw [Desk.run_bind_of_run (Desk.run_appendFile hwritten)]
      rfl

theorem run_createFile_of_unmade {directory : String} {cause : FileFault} {before : Desk}
    (hunmade : (Host.makeDirectories directory : StateM Desk (Except FileFault Unit)).run before =
      (.error cause, desk)) :
    (createFile directory : StateM Desk (Except FileFault String)).run before =
      (.error cause, desk) := by
  unfold createFile
  rw [Desk.run_bind_of_run hunmade]
  rfl

/-- The attempt that succeeds makes the directories and writes the header. -/
theorem run_createFile_of_created (hcreated : journal.creation desk = .ok path) :
    ∃ files location, (∀ out err,
        (createFile journal.directory : StateM Desk (Except FileFault String)).run
          { desk with out, err } =
            (.ok path, { desk with files, toClock := desk.toClock.next.next, out, err })) ∧
      files.HoldsFile path location
        (desk.files.contentAt location ++ (header desk.toClock.next.time ++ "\n").toUTF8) := by
  obtain ⟨result, made, clock, _, hmakes⟩ := Host.yields_makeDirectories journal.directory desk
  have hhere : (Host.makeDirectories journal.directory :
      StateM Desk (Except FileFault Unit)).run desk =
        (result, { desk with files := made, toClock := clock }) :=
    hmakes desk.out desk.err
  obtain ⟨hclock, hgrown⟩ := Host.grows_makeDirectories journal.directory desk rfl
  rw [hhere] at hclock hgrown
  obtain rfl : clock = desk.toClock := hclock
  unfold creation at hcreated
  cases result with
  | error cause =>
      rw [run_createFile_of_unmade hhere] at hcreated
      cases hcreated
  | ok =>
      rw [run_createFile_of_made hhere] at hcreated
      cases happended : made.append (logPath journal.directory desk.stamp)
          (header desk.toClock.next.time ++ "\n") with
      | error cause =>
          simp only [happended] at hcreated
          cases hcreated
      | ok files =>
          simp only [happended] at hcreated
          obtain rfl := Except.ok.inj hcreated
          obtain ⟨location, hholds⟩ := FileTree.exists_holdsFile_of_append happended
          refine ⟨files, location, ?_, ?_⟩
          · intro out err
            rw [run_createFile_of_made (hmakes out err)]
            simp only [happended]
          · have hsame : made.contentAt location = desk.files.contentAt location :=
              congrArg (·.getD ByteArray.empty) (hgrown.file?_eq (by simp))
            rw [← hsame]
            exact hholds

/-- The first record creates the log file and goes on as if it had been there. -/
theorem run_record_of_created (hunattempted : journal.attempted = false)
    (henabled : journal.enabled = true) {message : Message}
    (hmeant : message.target.reachesFile = true) {files : FileTree}
    (hcreates : ∀ out err,
      (createFile journal.directory : StateM Desk (Except FileFault String)).run
        { desk with out, err } =
          (.ok path, { desk with files, toClock := desk.toClock.next.next, out, err })) :
    (journal.record message : StateM Desk Journal).run desk =
      (({ journal with attempted := true, path? := some path } : Journal).record message :
        StateM Desk Journal).run { desk with files, toClock := desk.toClock.next.next } := by
  let next : Journal := { journal with attempted := true, path? := some path }
  have hwanted : (message.target.reachesFile && journal.enabled) = true :=
    Bool.and_eq_true_iff.mpr ⟨hmeant, henabled⟩
  have hagain : (message.target.reachesFile && next.enabled) = true := hwanted
  have hcreated := hcreates (desk.printAll [message]).out (desk.printAll [message]).err
  rw [run_record_of_opened hunattempted hwanted hcreated, run_record_of_attempted rfl hagain]
  rfl

/-- A journal that has not been used yet, and whose first record will create the log file. -/
structure Creates (path : String) (journal : Journal) (desk : Desk) : Prop where
  enabled : journal.enabled = true
  unattempted : journal.attempted = false
  created : journal.creation desk = .ok path

/-- The log file then holds all messages behind the header, and nothing else is printed. -/
theorem Creates.run_recordAll (hcreates : journal.Creates path desk) {messages : List Message}
    (hne : messages ≠ []) (hmeant : ∀ message ∈ messages, message.target.reachesFile = true) :
    let opened := desk.toClock.next
    ∃ next files clock location, (journal.recordAll messages : StateM Desk Journal).run desk =
        (next, { desk.printAll messages with files, toClock := clock }) ∧
      files.HoldsFile path location
        (desk.files.contentAt location ++
          (Text.joinLines (header opened.time :: entries opened.next messages)).toUTF8) := by
  cases messages with
  | nil => contradiction
  | cons message rest =>
      obtain ⟨created, location, hmade, hheader⟩ := run_createFile_of_created hcreates.created
      let next : Journal := { journal with attempted := true, path? := some path }
      let headed : Desk := { desk with files := created, toClock := desk.toClock.next.next }
      have hwrites : next.WritesTo path := ⟨hcreates.enabled, rfl, rfl⟩
      have hheaded : headed.files.HoldsFile path location _ := hheader
      obtain ⟨files, clock, hrecorded, hholds⟩ := hwrites.run_recordAll hmeant hheaded
      rw [Text.append_toUTF8_joinLines] at hholds
      have hmessage := (List.forall_mem_cons.mp hmeant).1
      have hfirst := run_record_of_created hcreates.unattempted hcreates.enabled hmessage hmade
      refine ⟨next, files, clock, location, ?_, hholds⟩
      rw [run_recordAll_cons, hfirst]
      exact hrecorded

theorem Creates.err_recordAll (hcreates : journal.Creates path desk) {messages : List Message}
    (hmeant : ∀ message ∈ messages, message.target.reachesFile = true) :
    ((journal.recordAll messages : StateM Desk Journal).run desk).2.err =
      (desk.printAll messages).err := by
  by_cases hnone : messages = []
  · rw [hnone, Desk.printAll_nil]
    rfl
  · obtain ⟨_, _, _, _, hrecorded, _⟩ := hcreates.run_recordAll hnone hmeant
    rw [hrecorded]

end Journal
end RomanTrade
