/-!
# Word tables

A lexicon holds words with what they stand for, each word once.  Entering a word that is already
there replaces its meaning and keeps its place.
-/

namespace RomanTrade

namespace Lexicon

/-- The entries after `word` is given the meaning `meaning`. -/
def replaceEntry {α : Type} (word : String) (meaning : α) :
    List (String × α) → List (String × α)
  | [] => [(word, meaning)]
  | (other, old) :: rest =>
    if other = word then (word, meaning) :: rest
    else (other, old) :: replaceEntry word meaning rest

theorem mem_words_replaceEntry {α : Type} {word : String} {meaning : α}
    {entries : List (String × α)} {other : String} :
    other ∈ (replaceEntry word meaning entries).map Prod.fst ↔
      other = word ∨ other ∈ entries.map Prod.fst := by
  induction entries with
  | nil => simp [replaceEntry]
  | cons entry rest ih =>
    by_cases h : entry.1 = word
    · simp [replaceEntry, h]
    · simp only [replaceEntry, h, if_false, List.map_cons, List.mem_cons, ih]
      constructor
      · rintro (hentry | hword | hrest)
        · exact Or.inr (Or.inl hentry)
        · exact Or.inl hword
        · exact Or.inr (Or.inr hrest)
      · rintro (hword | hentry | hrest)
        · exact Or.inr (Or.inl hword)
        · exact Or.inl hentry
        · exact Or.inr (Or.inr hrest)

theorem nodup_words_replaceEntry {α : Type} {word : String} {meaning : α}
    {entries : List (String × α)} (h : (entries.map Prod.fst).Nodup) :
    ((replaceEntry word meaning entries).map Prod.fst).Nodup := by
  induction entries with
  | nil => simp [replaceEntry]
  | cons entry rest ih =>
    rw [List.map_cons, List.nodup_cons] at h
    by_cases hword : entry.1 = word
    · simp only [replaceEntry, hword, if_true, List.map_cons, List.nodup_cons]
      exact ⟨hword ▸ h.1, h.2⟩
    · simp only [replaceEntry, hword, if_false, List.map_cons, List.nodup_cons]
      refine ⟨?_, ih h.2⟩
      rw [mem_words_replaceEntry]
      rintro (heq | hmem)
      · exact hword heq
      · exact h.1 hmem

end Lexicon

structure Lexicon (α : Type) where
  entries : List (String × α) := []
  distinct : (entries.map Prod.fst).Nodup := by exact List.nodup_nil
  deriving DecidableEq

namespace Lexicon

variable {α : Type}

def empty : Lexicon α := {}

def get? (lexicon : Lexicon α) (word : String) : Option α :=
  lexicon.entries.lookup word

def contains (lexicon : Lexicon α) (word : String) : Bool :=
  (lexicon.get? word).isSome

def size (lexicon : Lexicon α) : Nat :=
  lexicon.entries.length

def insert (lexicon : Lexicon α) (word : String) (meaning : α) : Lexicon α where
  entries := replaceEntry word meaning lexicon.entries
  distinct := nodup_words_replaceEntry lexicon.distinct

@[simp] theorem get?_empty (word : String) : (empty : Lexicon α).get? word = none := rfl

theorem lookup_cons_eq_ite {κ : Type} [BEq κ] [LawfulBEq κ] [DecidableEq κ] (name : κ)
    (meaning : α) (rest : List (κ × α)) (other : κ) :
    List.lookup other ((name, meaning) :: rest) =
      if other = name then some meaning else rest.lookup other := by
  by_cases h : other = name
  · simp [h]
  · have hne : (other == name) = false := beq_eq_false_iff_ne.mpr h
    simp [List.lookup_cons, h, hne]

theorem lookup_replaceEntry (entries : List (String × α)) (word : String) (meaning : α)
    (other : String) :
    (replaceEntry word meaning entries).lookup other =
      if other = word then some meaning else entries.lookup other := by
  induction entries with
  | nil => exact lookup_cons_eq_ite word meaning [] other
  | cons entry rest ih =>
    obtain ⟨name, old⟩ := entry
    by_cases hname : name = word
    · subst hname
      by_cases h : other = name <;> simp [replaceEntry, lookup_cons_eq_ite, h]
    · by_cases h : other = name
      · subst h
        simp [replaceEntry, hname]
      · simp [replaceEntry, lookup_cons_eq_ite, hname, h, ih]

theorem get?_insert (lexicon : Lexicon α) (word : String) (meaning : α) (other : String) :
    (lexicon.insert word meaning).get? other =
      if other = word then some meaning else lexicon.get? other :=
  lookup_replaceEntry lexicon.entries word meaning other

theorem contains_insert (lexicon : Lexicon α) (word : String) (meaning : α) (other : String) :
    (lexicon.insert word meaning).contains other = true ↔
      other = word ∨ lexicon.contains other = true := by
  unfold contains
  rw [get?_insert]
  by_cases h : other = word
  · simp [h]
  · simp [h]

end Lexicon
end RomanTrade
