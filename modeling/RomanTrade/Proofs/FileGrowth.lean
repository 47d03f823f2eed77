import RomanTrade.Proofs.FileContent

/-!
# What may be created in a file tree

A tree grows when nothing in it is lost: directories are made at some paths, and files are written
at others.  Making a directory and adding to a file let a tree grow, and so does one after the
other.  The working directory stays the same meanwhile, so that paths lead where they led before.
-/

namespace RomanTrade
namespace FileTree

variable {tree before middle after : FileTree} {location : Location} {paths written : List String}

/-- What may be at a location afterwards: what was there before, a new directory at one of `paths`,
or a file at one of the paths `written`. -/
inductive MayBecome (paths written : List String) (after : FileTree) (location : Location)
    (old : Option Node) : Option Node → Prop where
  | kept : MayBecome paths written after location old old
  | made {path : String} (absent : old = none) (mem : path ∈ paths)
      (leads : after.locate path = .ok location) :
      MayBecome paths written after location old (some .directory)
  | stored {path : String} {content : ByteArray} (free : old ≠ some .directory)
      (mem : path ∈ written) (leads : after.locate path = .ok location) :
      MayBecome paths written after location old (some (.file content))

structure Grown (paths written : List String) (before after : FileTree) : Prop where
  working_eq : after.working = before.working
  node : ∀ location, MayBecome paths written after location (before.node? location)
    (after.node? location)

theorem Grown.refl (paths written : List String) (tree : FileTree) :
    Grown paths written tree tree :=
  ⟨rfl, fun _ => .kept⟩

theorem Grown.directory_kept (hgrown : Grown paths written before after) (location : Location)
    (hdirectory : before.node? location = some .directory) :
    after.node? location = some .directory := by
  have hnode := hgrown.node location
  rw [hdirectory] at hnode
  generalize after.node? location = new at hnode
  cases hnode with
  | kept => rfl
  | made => rfl
  | stored free => exact absurd rfl free

theorem MayBecome.later {old new : Option Node}
    (h : MayBecome paths written middle location old new)
    (hgrown : Grown paths written middle after) :
    MayBecome paths written after location old new := by
  have hleads : ∀ {path : String}, middle.locate path = .ok location →
      after.locate path = .ok location :=
    locate_of_kept hgrown.directory_kept hgrown.working_eq
  cases h with
  | kept => exact .kept
  | made absent mem leads => exact .made absent mem (hleads leads)
  | stored free mem leads => exact .stored free mem (hleads leads)

theorem MayBecome.trans {old new last : Option Node}
    (hfirst : MayBecome paths written after location old new)
    (hsecond : MayBecome paths written after location new last) :
    MayBecome paths written after location old last := by
  cases hsecond with
  | kept => exact hfirst
  | made absent mem leads =>
      cases hfirst with
      | kept => exact .made absent mem leads
      | made => contradiction
      | stored => contradiction
  | stored free mem leads =>
      cases hfirst with
      | kept => exact .stored free mem leads
      | made => exact absurd rfl free
      | stored unoccupied => exact .stored unoccupied mem leads

theorem Grown.trans (hfirst : Grown paths written before middle)
    (hsecond : Grown paths written middle after) : Grown paths written before after := by
  constructor
  · exact hsecond.working_eq.trans hfirst.working_eq
  · intro location
    exact ((hfirst.node location).later hsecond).trans (hsecond.node location)

theorem Grown.mono {morePaths moreWritten : List String} (hgrown : Grown paths written before after)
    (hpaths : paths ⊆ morePaths) (hwritten : written ⊆ moreWritten) :
    Grown morePaths moreWritten before after := by
  refine ⟨hgrown.working_eq, ?_⟩
  intro location
  have hnode := hgrown.node location
  generalize after.node? location = new at hnode ⊢
  cases hnode with
  | kept => exact .kept
  | made absent mem leads => exact .made absent (hpaths mem) leads
  | stored free mem leads => exact .stored free (hwritten mem) leads

/-- Away from what is written every file stays as it is, and no file is created. -/
theorem Grown.file?_eq (hgrown : Grown paths written before after)
    (haway : ∀ path ∈ written, after.locate path ≠ .ok location) :
    after.file? location = before.file? location := by
  have hnode := hgrown.node location
  unfold file?
  generalize before.node? location = old at hnode ⊢
  generalize after.node? location = new at hnode ⊢
  cases hnode with
  | kept => rfl
  | made absent => rw [absent]
  | stored _ mem leads => exact absurd leads (haway _ mem)

theorem follow_append {start : Location} {front : List String}
    (hfront : tree.follow start front = .ok location) (back : List String) :
    tree.follow start (front ++ back) = tree.follow location back := by
  induction front generalizing start with
  | nil =>
      cases hfront
      rfl
  | cons name rest ih =>
      unfold follow at hfront
      split at hfront
      · contradiction
      · contradiction
      next hdirectory =>
        split at hfront
        · contradiction
        next hentered =>
          simp only [List.cons_append, follow, hdirectory, hentered]
          exact ih hfront

/-- A path leads to a directory, with a slash at its end or without. -/
theorem locate_of_directory {path : String} (hplain : pathFault? path = none)
    (hfollow : tree.follow (tree.start path) (pathNames path) = .ok location)
    (hdirectory : tree.node? location = some .directory) : tree.locate path = .ok location := by
  simp only [locate, hplain, names]
  split
  next =>
    rw [follow_append hfollow]
    unfold follow
    rw [hdirectory]
    rfl
  next => exact hfollow

theorem grown_makeDirectory {made : FileTree} {path : String}
    (h : tree.makeDirectory path = .ok made) : Grown [path] [] tree made := by
  unfold makeDirectory at h
  split at h
  · contradiction
  next hplain =>
    split at h
    · contradiction
    next place hfollow =>
      split at h
      · contradiction
      next hnode =>
        obtain rfl := Except.ok.inj h
        have hfree : tree.node? place ≠ some .directory := by simp [hnode]
        have hput : ∀ other, (tree.put place .directory).node? other =
            if other = place then some .directory else tree.node? other :=
          node?_put (ne_nil_of_no_directory hfree) .directory
        refine ⟨rfl, ?_⟩
        intro location
        rw [hput location]
        split
        next hplace =>
          have hleads := locate_of_directory hplain
            (follow_of_kept (directory_put hfree .directory) hfollow)
            ((hput place).trans (if_pos rfl))
          exact .made (hplace ▸ hnode) List.mem_cons_self (hplace ▸ hleads)
        next => exact .kept

theorem grown_append {path text : String} (h : tree.append path text = .ok after) :
    Grown [] [path] tree after := by
  obtain ⟨place, hlocated, hfree, rfl⟩ := eq_put_of_update h
  refine ⟨rfl, ?_⟩
  intro location
  rw [node?_put (ne_nil_of_no_directory hfree)]
  split
  next hplace =>
    have hleads := locate_of_kept (directory_put hfree
      (.file (tree.contentAt place ++ text.toUTF8))) rfl (locate_of_locateFile hlocated)
    exact .stored (hplace ▸ hfree) List.mem_cons_self (hplace ▸ hleads)
  next => exact .kept

end FileTree
end RomanTrade
