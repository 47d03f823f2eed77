import Mathlib.Data.List.DropRight
import RomanTrade.Keyword

/-!
# Words of a line

Splitting a line gives words: nonempty texts without blanks.  Blanks at the ends of a line do not
matter, and words that are joined by spaces are found again.
-/

namespace RomanTrade
namespace Text

def IsWord (word : String) : Prop :=
  word ≠ "" ∧ ∀ c ∈ word.toList, isBlank c = false

instance (word : String) : Decidable (IsWord word) :=
  decidable_of_iff (word ≠ "" ∧ word.toList.all (fun c => !isBlank c) = true) (by simp [IsWord])

/-- A word that a question mark is glued to. -/
def HasGluedQuestion (word : String) : Prop :=
  ∃ stem, stem ≠ "" ∧ word = stem ++ "?"

theorem toLower_of_isBlank {c : Char} (h : isBlank c = true) : c.toLower = c := by
  have hcode : c.toNat < 'A'.toNat ∨ 'Z'.toNat < c.toNat := by
    simp only [isBlank, isWithin, blankRanges, List.any_cons, List.any_nil, Bool.or_eq_true,
      Bool.and_eq_true, decide_eq_true_eq, Bool.false_eq_true, or_false] at h
    have hA : 'A'.toNat = 65 := rfl
    have hZ : 'Z'.toNat = 90 := rfl
    omega
  unfold Char.toLower
  rw [dif_neg]
  rintro ⟨hlow, hhigh⟩
  have hA : 'A'.toNat ≤ c.toNat := hlow
  have hZ : c.toNat ≤ 'Z'.toNat := hhigh
  omega

def letterWords (letters : List Char) : List (List Char) :=
  (letters.splitOnP isBlank).filter (!·.isEmpty)

theorem words_eq_map_letterWords (text : String) :
    words text = (letterWords text.toList).map String.ofList := rfl

theorem letterWords_nil : letterWords [] = [] := rfl

theorem letterWords_append_blank (front back : List Char) {b : Char} (hb : isBlank b = true) :
    letterWords (front ++ b :: back) = letterWords front ++ letterWords back := by
  unfold letterWords
  rw [List.splitOnP_append_cons front back hb, List.filter_append]

theorem letterWords_of_plain {letters : List Char} (hne : letters ≠ [])
    (hplain : ∀ c ∈ letters, isBlank c = false) : letterWords letters = [letters] := by
  unfold letterWords
  rw [List.splitOnP_eq_singleton hplain]
  simpa using hne

theorem plain_of_mem_splitOnP {letters piece : List Char}
    (hpiece : piece ∈ letters.splitOnP isBlank) : ∀ c ∈ piece, isBlank c = false := by
  induction letters generalizing piece with
  | nil =>
      simp only [List.splitOnP_nil, List.mem_singleton] at hpiece
      simp [hpiece]
  | cons first rest ih =>
      rw [List.splitOnP_cons_eq_if_modifyHead] at hpiece
      split at hpiece
      next =>
        rcases List.mem_cons.mp hpiece with rfl | hrest
        · simp
        · exact ih hrest
      next hfirst =>
        cases hsplit : rest.splitOnP isBlank with
        | nil => exact absurd hsplit (List.splitOnP_ne_nil isBlank rest)
        | cons head tail =>
            rw [hsplit, List.modifyHead_cons] at hpiece
            rcases List.mem_cons.mp hpiece with rfl | htail
            · intro c hc
              rcases List.mem_cons.mp hc with rfl | hc
              · simpa using hfirst
              · exact ih (by simp [hsplit]) c hc
            · exact ih (by simp [hsplit, htail])

theorem isWord_of_mem_words {text word : String} (h : word ∈ words text) : IsWord word := by
  rw [words_eq_map_letterWords] at h
  obtain ⟨letters, hletters, rfl⟩ := List.mem_map.mp h
  obtain ⟨hsplit, hne⟩ := List.mem_filter.mp hletters
  constructor
  · simpa using hne
  · simpa using plain_of_mem_splitOnP hsplit

theorem letterWords_dropWhile (letters : List Char) :
    letterWords (letters.dropWhile isBlank) = letterWords letters := by
  induction letters with
  | nil => rfl
  | cons first rest ih =>
      by_cases hfirst : isBlank first = true
      · rw [List.dropWhile_cons_of_pos hfirst, ih]
        have hsplit := letterWords_append_blank [] rest hfirst
        simpa [letterWords_nil] using hsplit.symm
      · rw [List.dropWhile_cons_of_neg hfirst]

theorem letterWords_reverse_dropWhile (letters : List Char) :
    letterWords (letters.dropWhile isBlank).reverse = letterWords letters.reverse := by
  induction letters with
  | nil => rfl
  | cons first rest ih =>
      by_cases hfirst : isBlank first = true
      · rw [List.dropWhile_cons_of_pos hfirst, ih, List.reverse_cons]
        have hsplit := letterWords_append_blank rest.reverse [] hfirst
        simpa [letterWords_nil] using hsplit.symm
      · rw [List.dropWhile_cons_of_neg hfirst]

theorem toList_trim (text : String) :
    (trim text).toList = (text.toList.dropWhile isBlank).rdropWhile isBlank :=
  String.toList_ofList

theorem trim_trim (text : String) : trim (trim text) = trim text := by
  rw [← String.toList_inj, toList_trim, toList_trim]
  -- Blanks that are dropped at the back leave the front as it is: it starts with no blank.
  have hfront : ((text.toList.dropWhile isBlank).rdropWhile isBlank).dropWhile isBlank =
      (text.toList.dropWhile isBlank).rdropWhile isBlank := by
    apply List.dropWhile_eq_self_iff.mpr
    intro hne
    rw [(List.rdropWhile_prefix isBlank _).getElem hne]
    exact List.dropWhile_get_zero_not isBlank text.toList _
  rw [hfront, List.rdropWhile_idempotent]

theorem words_trim (text : String) : words (trim text) = words text := by
  rw [words_eq_map_letterWords, words_eq_map_letterWords, toList_trim, List.rdropWhile,
    letterWords_reverse_dropWhile, List.reverse_reverse, letterWords_dropWhile]

theorem joinWords_cons_cons (first second : String) (rest : List String) :
    joinWords (first :: second :: rest) = first ++ " " ++ joinWords (second :: rest) :=
  String.intercalate_cons_cons

theorem words_joinWords {ws : List String} (hwords : ∀ word ∈ ws, IsWord word) :
    words (joinWords ws) = ws := by
  induction ws with
  | nil => rfl
  | cons first rest ih =>
      obtain ⟨hne, hplain⟩ := hwords first List.mem_cons_self
      have hfirst : letterWords first.toList = [first.toList] :=
        letterWords_of_plain (by simpa using hne) hplain
      cases rest with
      | nil =>
          have hjoin : joinWords [first] = first := String.intercalate_singleton
          rw [words_eq_map_letterWords, hjoin, hfirst]
          simp
      | cons second rest =>
          have hrest := ih fun word hword => hwords word (List.mem_cons_of_mem first hword)
          rw [words_eq_map_letterWords] at hrest ⊢
          have hletters : (joinWords (first :: second :: rest)).toList =
              first.toList ++ ' ' :: (joinWords (second :: rest)).toList := by
            rw [joinWords_cons_cons]
            simp
          rw [hletters, letterWords_append_blank _ _ (by decide), hfirst, List.map_append, hrest]
          simp

/-- Only a glued question mark is taken off, and only from the last word. -/
theorem splitQuestion_eq_self {ws : List String}
    (hlast : ∀ last, ws.getLast? = some last → ¬ HasGluedQuestion last) :
    splitQuestion ws = ws := by
  fun_induction splitQuestion ws with
  | case1 => rfl
  | case2 last c rest hreverse =>
      have hletters : last.toList = rest.reverse ++ [c] ++ ['?'] := by
        simpa using congrArg List.reverse hreverse
      refine absurd ⟨String.ofList (rest.reverse ++ [c]), by simp, ?_⟩ (hlast last rfl)
      rw [← String.toList_inj]
      simpa using hletters
  | case3 => rfl
  | case4 word next rest ih =>
      rw [ih]
      intro last hrest
      exact hlast last (by simpa using hrest)

theorem isWord_of_mem_splitQuestion {ws : List String} (hwords : ∀ word ∈ ws, IsWord word) :
    ∀ word ∈ splitQuestion ws, IsWord word := by
  fun_induction splitQuestion ws with
  | case1 => exact hwords
  | case2 last c rest hreverse =>
      have hletters : last.toList = rest.reverse ++ [c] ++ ['?'] := by
        simpa using congrArg List.reverse hreverse
      obtain ⟨_, hplain⟩ := hwords last List.mem_cons_self
      intro word hword
      rcases List.mem_cons.mp hword with rfl | hword
      · refine ⟨by simp, ?_⟩
        intro letter hletter
        apply hplain letter
        rw [hletters]
        exact List.mem_append_left _ (by simpa using hletter)
      · rw [List.mem_singleton.mp hword]
        decide
  | case3 => exact hwords
  | case4 word next rest ih =>
      intro other hother
      rcases List.mem_cons.mp hother with rfl | hother
      · exact hwords other List.mem_cons_self
      · exact ih (fun word hword => hwords word (List.mem_cons_of_mem _ hword)) other hother

theorem isWord_of_mem_tokenize {line word : String} (h : word ∈ tokenize line) : IsWord word :=
  isWord_of_mem_splitQuestion (fun _ hword => isWord_of_mem_words hword) word h

theorem tokenize_trim (line : String) : tokenize (trim line) = tokenize line := by
  unfold tokenize
  rw [words_trim]

theorem tokenize_joinWords {ws : List String} (hwords : ∀ word ∈ ws, IsWord word)
    (hlast : ∀ last, ws.getLast? = some last → ¬ HasGluedQuestion last) :
    tokenize (joinWords ws) = ws := by
  unfold tokenize
  rw [words_joinWords hwords, splitQuestion_eq_self hlast]

end Text
end RomanTrade
