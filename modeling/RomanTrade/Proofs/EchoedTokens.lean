import RomanTrade.Proofs.WordSplitting

/-!
# Echoed tokens

A line is echoed as its tokens with one space between them.  Reading the echo gives the same tokens
again: what a line is read as is a list of words whose last one has no question mark glued to it,
and such a list is what its echo is read as.  Blanks only separate words, however many there are.
-/

namespace RomanTrade
namespace Text

/-- What a line can be read as. -/
structure IsTokenList (ws : List String) : Prop where
  words : ∀ word ∈ ws, IsWord word
  no_glued_question : ∀ last, ws.getLast? = some last → ¬ HasGluedQuestion last

def IsBlankText (text : String) : Prop :=
  ∀ c ∈ text.toList, isBlank c = true

instance (text : String) : Decidable (IsBlankText text) :=
  decidable_of_iff (text.toList.all isBlank = true) (by simp [IsBlankText])

theorem not_hasGluedQuestion_question : ¬ HasGluedQuestion "?" := by
  rintro ⟨stem, hstem, hword⟩
  have hletters : ['?'] = stem.toList ++ ['?'] := by
    simpa using congrArg String.toList hword
  have hempty : stem.toList = [] := by
    simpa using hletters
  exact hstem (String.toList_eq_nil_iff.mp hempty)

theorem exists_reverse_of_hasGluedQuestion {word : String} (h : HasGluedQuestion word) :
    ∃ c rest, word.toList.reverse = '?' :: c :: rest := by
  obtain ⟨stem, hstem, rfl⟩ := h
  have hletters : (stem ++ "?").toList.reverse = '?' :: stem.toList.reverse := by simp
  cases hreverse : stem.toList.reverse with
  | nil => exact absurd (by simpa using hreverse) hstem
  | cons c rest => exact ⟨c, rest, by rw [hletters, hreverse]⟩

theorem splitQuestion_ne_nil {ws : List String} (hne : ws ≠ []) : splitQuestion ws ≠ [] := by
  fun_cases splitQuestion ws with
  | case1 => exact hne
  | case2 => exact List.cons_ne_nil _ _
  | case3 => exact List.cons_ne_nil _ _
  | case4 => exact List.cons_ne_nil _ _

/-- Taking one question mark off leaves none that is glued: the last token is then the mark. -/
theorem not_hasGluedQuestion_of_splitQuestion {ws : List String} :
    ∀ last, (splitQuestion ws).getLast? = some last → ¬ HasGluedQuestion last := by
  fun_induction splitQuestion ws with
  | case1 => simp
  | case2 word c rest hreverse =>
      intro last hlast
      have hquestion : last = "?" := by simpa using hlast.symm
      rw [hquestion]
      exact not_hasGluedQuestion_question
  | case3 word hplain =>
      intro last hlast hglued
      have hword : last = word := by simpa using hlast.symm
      obtain ⟨c, rest, hreverse⟩ := exists_reverse_of_hasGluedQuestion hglued
      exact hplain c rest (hword ▸ hreverse)
  | case4 word next rest ih =>
      intro last hlast
      obtain ⟨first, others, hsplit⟩ :=
        List.exists_cons_of_ne_nil (splitQuestion_ne_nil (List.cons_ne_nil next rest))
      rw [hsplit, List.getLast?_cons_cons] at hlast
      exact ih last (hsplit ▸ hlast)

theorem isTokenList_tokenize (line : String) : IsTokenList (tokenize line) where
  words _ := isWord_of_mem_tokenize
  no_glued_question := not_hasGluedQuestion_of_splitQuestion

theorem tokenize_joinWords_iff {ws : List String} :
    tokenize (joinWords ws) = ws ↔ IsTokenList ws := by
  constructor
  · intro h
    rw [← h]
    exact isTokenList_tokenize (joinWords ws)
  · intro h
    exact tokenize_joinWords h.words h.no_glued_question

theorem letterWords_append_blanks (front back : List Char) {blanks : List Char}
    (hne : blanks ≠ []) (hblank : ∀ c ∈ blanks, isBlank c = true) :
    letterWords (front ++ (blanks ++ back)) = letterWords front ++ letterWords back := by
  induction blanks generalizing front with
  | nil => exact absurd rfl hne
  | cons b more ih =>
      have hb : isBlank b = true := hblank b List.mem_cons_self
      have hmore : ∀ c ∈ more, isBlank c = true :=
        fun c hc => hblank c (List.mem_cons_of_mem b hc)
      rw [List.cons_append, letterWords_append_blank front _ hb]
      cases more with
      | nil => rfl
      | cons next others =>
          have hrest := ih [] (List.cons_ne_nil next others) hmore
          rw [List.nil_append, letterWords_nil, List.nil_append] at hrest
          rw [hrest]

/-- One blank between two parts of a line separates their words as well as many do. -/
theorem words_append_blanks (front back : String) {blanks : String} (hne : blanks ≠ "")
    (hblank : IsBlankText blanks) :
    words (front ++ blanks ++ back) = words front ++ words back := by
  have hletters : (front ++ blanks ++ back).toList =
      front.toList ++ (blanks.toList ++ back.toList) := by simp
  rw [words_eq_map_letterWords, hletters,
    letterWords_append_blanks _ _ (by simpa using hne) hblank, List.map_append]
  rfl

theorem words_blanks_append (line : String) {blanks : String} (hblank : IsBlankText blanks) :
    words (blanks ++ line) = words line := by
  by_cases hempty : blanks = ""
  · rw [hempty, String.empty_append]
  · have hsplit := words_append_blanks "" line hempty hblank
    rwa [String.empty_append] at hsplit

theorem words_append_blanks_end (line : String) {blanks : String} (hblank : IsBlankText blanks) :
    words (line ++ blanks) = words line := by
  by_cases hempty : blanks = ""
  · rw [hempty, String.append_empty]
  · have hsplit := words_append_blanks line "" hempty hblank
    rw [String.append_empty] at hsplit
    rw [hsplit]
    exact List.append_nil (words line)

/-- The echo of a list of tokens is read as that list exactly when a line can be read as it, so the
echo of any line is read as the line was.  Blanks at the ends of a line do not matter, nor does it
which blanks separate two words and how many. -/
theorem echoes_read_back :
    (∀ ws, tokenize (joinWords ws) = ws ↔ IsTokenList ws) ∧
      (∀ line, IsTokenList (tokenize line)) ∧
      (∀ line, tokenize (joinWords (tokenize line)) = tokenize line) ∧
      (∀ line before behind, IsBlankText before → IsBlankText behind →
        tokenize (before ++ line ++ behind) = tokenize line) ∧
      ∀ front back gap other, gap ≠ "" → other ≠ "" → IsBlankText gap → IsBlankText other →
        tokenize (front ++ gap ++ back) = tokenize (front ++ other ++ back) := by
  refine ⟨fun ws => tokenize_joinWords_iff, isTokenList_tokenize, ?_, ?_, ?_⟩
  · intro line
    exact tokenize_joinWords_iff.mpr (isTokenList_tokenize line)
  · intro line before behind hbefore hbehind
    unfold tokenize
    rw [words_append_blanks_end _ hbehind, words_blanks_append _ hbefore]
  · intro front back gap other hgap hother hgapBlank hotherBlank
    unfold tokenize
    rw [words_append_blanks front back hgap hgapBlank,
      words_append_blanks front back hother hotherBlank]

/-- Of two question marks at the end of a line only the last becomes a token of its own. -/
theorem doubled_question_reads_back :
    (IsBlankText "  " ∧ IsBlankText "\t" ∧ IsTokenList ["zwölf?", "?"]) ∧
      tokenize ("  " ++ "zwölf??" ++ "\t") = ["zwölf?", "?"] ∧
      tokenize (joinWords ["zwölf?", "?"]) = ["zwölf?", "?"] := by
  obtain ⟨hechoed, hread, _, hends, _⟩ := echoes_read_back
  have hspaces : IsBlankText "  " := by decide
  have htab : IsBlankText "\t" := by decide
  have htokens : tokenize "zwölf??" = ["zwölf?", "?"] := by decide
  have hlist : IsTokenList ["zwölf?", "?"] := htokens ▸ hread "zwölf??"
  refine ⟨⟨hspaces, htab, hlist⟩, ?_, (hechoed _).mpr hlist⟩
  rw [hends "zwölf??" "  " "\t" hspaces htab, htokens]

end Text
end RomanTrade
