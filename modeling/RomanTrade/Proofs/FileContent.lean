import RomanTrade.Host.FileTree
import RomanTrade.Lexicon

/-!
# Content of files

What has been written to a file is read from it afterwards.  A path is followed through directories
only, and a file is never put in the place of a directory, so the path of the file still leads where
it led before.
-/

namespace RomanTrade

section Results

variable {ε α : Type} {result : Except ε α}

theorem eq_ok_of_toOption {value : α} (h : result.toOption = some value) : result = .ok value := by
  cases result with
  | error cause => contradiction
  | ok found => exact congrArg Except.ok (Option.some.inj h)

theorem exists_of_isOk (h : result.isOk = true) : ∃ value, result = .ok value := by
  cases result with
  | error cause => contradiction
  | ok value => exact ⟨value, rfl⟩

theorem exists_of_not_isOk (h : result.isOk = false) : ∃ cause, result = .error cause := by
  cases result with
  | error cause => exact ⟨cause, rfl⟩
  | ok value => contradiction

end Results

namespace FileTree

theorem lookup_replaceNode (nodes : List (Location × Node)) (location : Location) (node : Node)
    (other : Location) :
    (replaceNode location node nodes).lookup other =
      if other = location then some node else nodes.lookup other := by
  induction nodes with
  | nil => exact Lexicon.lookup_cons_eq_ite location node [] other
  | cons entry rest ih =>
      obtain ⟨place, old⟩ := entry
      by_cases hplace : place = location
      · subst hplace
        by_cases h : other = place <;>
          simp [replaceNode, Lexicon.lookup_cons_eq_ite, h]
      · by_cases h : other = place
        · subst h
          simp [replaceNode, hplace]
        · simp [replaceNode, Lexicon.lookup_cons_eq_ite, hplace, h, ih]

variable {tree : FileTree} {location place : Location}

theorem node?_put (hbelow : location ≠ []) (node : Node) (other : Location) :
    (tree.put location node).node? other =
      if other = location then some node else tree.node? other := by
  unfold node? put
  by_cases hother : other = []
  · subst hother
    simp [Ne.symm hbelow]
  · simp [hother, lookup_replaceNode]

/-- The root is always there. -/
theorem ne_nil_of_no_directory (h : tree.node? location ≠ some .directory) : location ≠ [] := by
  rintro rfl
  exact h rfl

/-- Ways that were open stay open where no directory is lost. -/
theorem follow_of_kept {after : FileTree}
    (hkept : ∀ other, tree.node? other = some .directory → after.node? other = some .directory)
    {start : Location} {names : List String} (hfollow : tree.follow start names = .ok location) :
    after.follow start names = .ok location := by
  induction names generalizing start with
  | nil => exact hfollow
  | cons name rest ih =>
      unfold follow at hfollow ⊢
      split at hfollow
      · contradiction
      · contradiction
      next hdirectory =>
        rw [hkept start hdirectory]
        split at hfollow
        · contradiction
        · exact ih hfollow

theorem start_of_working {after : FileTree} (hworking : after.working = tree.working)
    (path : String) : after.start path = tree.start path := by
  unfold start
  rw [hworking]

theorem locate_of_kept {after : FileTree}
    (hkept : ∀ other, tree.node? other = some .directory → after.node? other = some .directory)
    (hworking : after.working = tree.working) {path : String}
    (h : tree.locate path = .ok location) : after.locate path = .ok location := by
  unfold locate at h ⊢
  split at h
  · contradiction
  · rw [start_of_working hworking]
    exact follow_of_kept hkept h

/-- What is put where no directory is takes no directory away. -/
theorem directory_put (hplace : tree.node? place ≠ some .directory) (node : Node)
    (other : Location) (hother : tree.node? other = some .directory) :
    (tree.put place node).node? other = some .directory := by
  have hne : other ≠ place := by
    rintro rfl
    exact hplace hother
  rw [node?_put (ne_nil_of_no_directory hplace), if_neg hne]
  exact hother

/-- A path of a file leads where the file is; one with a slash at its end leads to no file. -/
theorem locate_of_locateFile {path : String} (h : tree.locateFile path = .ok location) :
    tree.locate path = .ok location := by
  unfold locateFile at h
  unfold locate names
  split at h
  · contradiction
  · split at h
    · split at h <;> contradiction
    next hopen =>
      rw [if_neg hopen]
      exact h

/-- The content of the file at a location, if a file is there. -/
def file? (tree : FileTree) (location : Location) : Option ByteArray :=
  match tree.node? location with
  | some (.file content) => some content
  | some .directory | none => none

/-- What the file at a location holds; a missing file counts as empty. -/
def contentAt (tree : FileTree) (location : Location) : ByteArray :=
  (tree.file? location).getD .empty

theorem contentAt_of_file {content : ByteArray}
    (h : tree.node? location = some (.file content)) : tree.contentAt location = content := by
  unfold contentAt file?
  rw [h]
  rfl

/-- A file can be given a content exactly where its path leads to no directory. -/
theorem update_of_locateFile {path : String} (change : ByteArray → ByteArray)
    (hlocated : tree.locateFile path = .ok location)
    (hfree : tree.node? location ≠ some .directory) :
    tree.update path change =
      .ok (tree.put location (.file (change (tree.contentAt location)))) := by
  cases hnode : tree.node? location with
  | none => simp only [update, contentAt, file?, hlocated, hnode, Option.getD]
  | some node =>
      cases node with
      | file content => simp only [update, contentAt, file?, hlocated, hnode, Option.getD]
      | directory => exact absurd hnode hfree

theorem eq_put_of_update {written : FileTree} {path : String} {change : ByteArray → ByteArray}
    (h : tree.update path change = .ok written) :
    ∃ location, tree.locateFile path = .ok location ∧ tree.node? location ≠ some .directory ∧
      written = tree.put location (.file (change (tree.contentAt location))) := by
  cases hlocated : tree.locateFile path with
  | error fault => simp [update, hlocated] at h
  | ok location =>
      have hfree : tree.node? location ≠ some .directory := by
        intro hdirectory
        simp [update, hlocated, hdirectory] at h
      rw [update_of_locateFile change hlocated hfree] at h
      exact ⟨location, rfl, hfree, (Except.ok.inj h).symm⟩

theorem fromUTF8?_toByteArray (text : String) : String.fromUTF8? text.toByteArray = some text := by
  unfold String.fromUTF8?
  rw [dif_pos text.isValidUTF8]
  rfl

theorem readText_of_node {path text : String} (hlocated : tree.locate path = .ok location)
    (hnode : tree.node? location = some (.file text.toByteArray)) :
    tree.hasPath path = true ∧ tree.readText path = .ok text := by
  constructor
  · simp [hasPath, hlocated, hnode]
  · simp [readText, read, hlocated, hnode, fromUTF8?_toByteArray]

theorem readText_of_write {written : FileTree} {path text : String}
    (h : tree.write path text = .ok written) :
    written.hasPath path = true ∧ written.readText path = .ok text := by
  obtain ⟨location, hlocated, hfree, rfl⟩ := eq_put_of_update h
  apply readText_of_node
  · exact locate_of_kept (directory_put hfree _) rfl (locate_of_locateFile hlocated)
  · rw [node?_put (ne_nil_of_no_directory hfree), if_pos rfl]
    rfl

end FileTree
end RomanTrade
