import RomanTrade.Proofs.ControlSequences
import RomanTrade.Screen.Layout

/-!
# Centered text

Spaces are counted by what is seen of a text and put around all of it.  The two agree for a text
whose control sequences are closed, since no sequence reaches into the spaces behind it.
-/

namespace RomanTrade
namespace Screen

/-- Every control sequence is ended by an ASCII letter. -/
def Closed (text : List Char) : Prop :=
  ∀ behind, '\x1b' :: '[' :: behind <:+ text → ∃ c ∈ behind, c.isAlpha = true

section Closed

variable {front back text : List Char}

theorem Closed.of_suffix (h : Closed text) (hsuffix : back <:+ text) : Closed back :=
  fun behind hopens => h behind (hopens.trans hsuffix)

theorem closed_of_plain (hplain : '\x1b' ∉ text) : Closed text := by
  intro behind hopens
  exact absurd (hopens.mem List.mem_cons_self) hplain

theorem Closed.plain_append (hback : Closed back) (hplain : '\x1b' ∉ front) :
    Closed (front ++ back) := by
  induction front with
  | nil => exact hback
  | cons c rest ih =>
      rw [List.mem_cons, not_or] at hplain
      intro behind hopens
      rcases List.suffix_cons_iff.mp hopens with hhere | hlater
      · exact absurd (List.cons.inj hhere).1 hplain.1
      · exact ih hplain.2 behind hlater

/-- A letter at the end closes whatever is open. -/
theorem closed_of_last_letter {letter : Char} (hletter : letter.isAlpha = true)
    (front : List Char) : Closed (front ++ [letter]) := by
  intro behind hopens
  rcases List.suffix_concat_iff.mp hopens with hnone | ⟨inner, hinner, -⟩
  · contradiction
  · cases inner with
    | nil =>
        obtain ⟨-, hnone⟩ := List.cons.inj hinner
        contradiction
    | cons escape inner =>
        obtain ⟨-, hinner⟩ := List.cons.inj hinner
        cases inner with
        | nil =>
            obtain ⟨rfl, -⟩ := List.cons.inj hinner
            contradiction
        | cons bracket body =>
            obtain ⟨-, rfl⟩ := List.cons.inj hinner
            exact ⟨letter, List.mem_append_right _ List.mem_cons_self, hletter⟩

/-- Text that does not begin with a bracket lets no escape before it open a sequence. -/
theorem exists_opened_of_append (hapart : back.head? ≠ some '[') {c : Char}
    (hopens : ['\x1b', '['] <+: c :: (front ++ back)) :
    ∃ body, c :: front = '\x1b' :: '[' :: body := by
  obtain ⟨behind, hbehind⟩ := hopens
  obtain ⟨rfl, hrest⟩ := List.cons.inj hbehind
  cases front with
  | nil =>
      rw [List.nil_append] at hrest
      rw [← hrest] at hapart
      contradiction
  | cons d body =>
      obtain ⟨rfl, -⟩ := List.cons.inj hrest
      exact ⟨body, rfl⟩

theorem Closed.append (hfront : Closed front) (hback : Closed back)
    (hapart : back.head? ≠ some '[') : Closed (front ++ back) := by
  induction front with
  | nil => exact hback
  | cons c rest ih =>
      intro behind hopens
      rcases List.suffix_cons_iff.mp hopens with hhere | hlater
      · obtain ⟨body, hbody⟩ := exists_opened_of_append hapart ⟨behind, hhere⟩
        obtain ⟨letter, hmem, hletter⟩ := hfront body (hbody ▸ List.suffix_refl _)
        have hbehind : behind = body ++ back := by
          have hboth := congrArg (· ++ back) hbody
          have hwhole := hhere.trans hboth
          exact (List.cons.inj (List.cons.inj hwhole).2).2
        rw [hbehind]
        exact ⟨letter, List.mem_append_left _ hmem, hletter⟩
      · exact ih (hfront.of_suffix (List.suffix_cons _ _)) behind hlater

end Closed

namespace Stripped

variable {front back seen more : List Char}

theorem plain_append (hplain : '\x1b' ∉ front) (hback : Stripped back more) :
    Stripped (front ++ back) (front ++ more) := by
  induction front with
  | nil => exact hback
  | cons c rest ih =>
      rw [List.mem_cons, not_or] at hplain
      refine .kept ?_ (ih hplain.2)
      rintro ⟨_, hopens⟩
      exact hplain.1 (List.cons.inj hopens).1

/-- Closed text is stripped by itself, whatever comes behind it. -/
theorem append (hfront : Stripped front seen) (hclosed : Closed front)
    (hapart : back.head? ≠ some '[') (hback : Stripped back more) :
    Stripped (front ++ back) (seen ++ more) := by
  induction hfront with
  | nothing => exact hback
  | @kept c rest visible plain _ ih =>
      refine .kept ?_ (ih (hclosed.of_suffix (List.suffix_cons _ _)))
      intro hopens
      obtain ⟨body, hbody⟩ := exists_opened_of_append hapart hopens
      exact plain ⟨body, hbody.symm⟩
  | @closed body rest visible letter body_unended ends _ ih =>
      have hrest : rest <:+ '\x1b' :: '[' :: (body ++ letter :: rest) :=
        ⟨'\x1b' :: '[' :: (body ++ [letter]), by simp⟩
      have hbehind := Stripped.closed body_unended ends (ih (hclosed.of_suffix hrest))
      simpa using hbehind
  | @unclosed body body_unended =>
      obtain ⟨letter, hmem, hletter⟩ := hclosed body (List.suffix_refl _)
      rw [body_unended letter hmem] at hletter
      contradiction

end Stripped

theorem visibleWidth_of_stripped {text : String} {visible : List Char}
    (h : Stripped text.toList visible) : visibleWidth text = visible.length := by
  rw [visibleWidth, h.visibleText_eq, String.length_ofList]

variable {front back content : String}

theorem visibleWidth_append (hclosed : Closed front.toList)
    (hapart : back.toList.head? ≠ some '[') :
    visibleWidth (front ++ back) = visibleWidth front + visibleWidth back := by
  obtain ⟨seen, hseen⟩ := exists_stripped front.toList
  obtain ⟨more, hmore⟩ := exists_stripped back.toList
  have hboth := hseen.append hclosed hapart hmore
  rw [← String.toList_append] at hboth
  rw [visibleWidth_of_stripped hboth, visibleWidth_of_stripped hseen,
    visibleWidth_of_stripped hmore, List.length_append]

theorem visibleWidth_plain_append (hplain : '\x1b' ∉ front.toList) (back : String) :
    visibleWidth (front ++ back) = front.length + visibleWidth back := by
  obtain ⟨more, hmore⟩ := exists_stripped back.toList
  have hboth := hmore.plain_append hplain
  rw [← String.toList_append] at hboth
  rw [visibleWidth_of_stripped hboth, visibleWidth_of_stripped hmore, List.length_append,
    String.length_toList]

theorem visibleWidth_of_plain (hplain : '\x1b' ∉ front.toList) :
    visibleWidth front = front.length := by
  have hnothing : Stripped "".toList [] := .nothing
  have hempty : visibleWidth "" = 0 := visibleWidth_of_stripped hnothing
  have hfront := visibleWidth_plain_append hplain ""
  rw [String.append_empty, hempty, Nat.add_zero] at hfront
  exact hfront

/-! ## Spaces -/

theorem toList_spaces (count : Nat) : (spaces count).toList = List.replicate count ' ' :=
  String.toList_ofList

theorem length_spaces (count : Nat) : (spaces count).length = count := by
  rw [spaces, String.length_ofList, List.length_replicate]

theorem plain_spaces (count : Nat) : '\x1b' ∉ (spaces count).toList := by
  rw [toList_spaces, List.mem_replicate]
  rintro ⟨-, hspace⟩
  contradiction

theorem head?_spaces_ne_bracket (count : Nat) : (spaces count).toList.head? ≠ some '[' := by
  rw [toList_spaces]
  cases count with
  | zero => simp
  | succ count => simp [List.replicate_succ]

theorem visibleWidth_between_spaces (hclosed : Closed content.toList) (left right : Nat) :
    visibleWidth (spaces left ++ content ++ spaces right) =
      left + visibleWidth content + right := by
  rw [String.append_assoc, visibleWidth_plain_append (plain_spaces left),
    visibleWidth_append hclosed (head?_spaces_ne_bracket right),
    visibleWidth_of_plain (plain_spaces right), length_spaces, length_spaces, Nat.add_assoc]

/-- Text stands between as many spaces as are missing, the odd one at its right. -/
theorem exists_spaces_of_center (content : String) (width : Nat) :
    ∃ left right, center content width = spaces left ++ content ++ spaces right ∧
      (right = left ∨ right = left + 1) ∧
      left + visibleWidth content + right = max width (visibleWidth content) := by
  unfold center
  dsimp only
  split
  next hfull =>
    refine ⟨0, 0, ?_, .inl rfl, ?_⟩
    · have hnone : spaces 0 = "" := rfl
      rw [hnone, String.empty_append, String.append_empty]
    · omega
  next hshort => exact ⟨_, _, rfl, by omega, by omega⟩

theorem closed_center (hclosed : Closed content.toList) (width : Nat) :
    Closed (center content width).toList := by
  obtain ⟨left, right, hcenter, -, -⟩ := exists_spaces_of_center content width
  rw [hcenter, String.append_assoc, String.toList_append, String.toList_append]
  have hbehind : Closed (content.toList ++ (spaces right).toList) :=
    hclosed.append (closed_of_plain (plain_spaces right)) (head?_spaces_ne_bracket right)
  exact hbehind.plain_append (plain_spaces left)

theorem visibleWidth_center (hclosed : Closed content.toList) (width : Nat) :
    visibleWidth (center content width) = max width (visibleWidth content) := by
  obtain ⟨left, right, hcenter, -, hsum⟩ := exists_spaces_of_center content width
  rw [hcenter, visibleWidth_between_spaces hclosed, hsum]

/-! ## The banner -/

theorem closed_styled (text : String) : Closed (text ++ resetStyle).toList := by
  have hreset : resetStyle.toList = ['\x1b', '[', '0'] ++ ['m'] := rfl
  rw [String.toList_append, hreset, ← List.append_assoc]
  exact closed_of_last_letter (by decide) _

theorem closed_of_mem_bannerContents (h : content ∈ bannerContents) : Closed content.toList := by
  simp only [bannerContents, List.mem_cons, List.not_mem_nil, or_false] at h
  rcases h with rfl | rfl | rfl
  · exact closed_styled _
  · exact closed_styled _
  · exact closed_styled _

theorem visibleWidth_boxed (hclosed : Closed content.toList) :
    visibleWidth (boxed content) = visibleWidth content + 2 := by
  have hedge : '\x1b' ∉ "│".toList := by decide
  unfold boxed
  rw [String.append_assoc, visibleWidth_plain_append hedge,
    visibleWidth_append hclosed (by decide), visibleWidth_of_plain hedge]
  change 1 + (_ + 1) = _
  omega

theorem visibleWidth_rule {left right : String} (hleft : '\x1b' ∉ left.toList)
    (hright : '\x1b' ∉ right.toList) :
    visibleWidth (left ++ horizontalRule ++ right) =
      left.length + (bannerWidth + right.length) := by
  have hrule : '\x1b' ∉ horizontalRule.toList := by
    rw [horizontalRule, String.toList_ofList, List.mem_replicate]
    rintro ⟨-, hstroke⟩
    contradiction
  rw [String.append_assoc, visibleWidth_plain_append hleft, visibleWidth_plain_append hrule,
    visibleWidth_of_plain hright, horizontalRule, String.length_ofList, List.length_replicate]

theorem visibleWidth_of_mem_bannerLinesIn {columns : Nat} {line : String}
    (h : line ∈ bannerLinesIn columns) :
    visibleWidth line = (columns - (bannerWidth + 2)) / 2 + (bannerWidth + 2) := by
  obtain ⟨box, hbox, rfl⟩ := List.mem_map.mp h
  rw [visibleWidth_plain_append (plain_spaces _), length_spaces]
  have hblank : visibleWidth (boxed (spaces bannerWidth)) = bannerWidth + 2 := by
    rw [visibleWidth_boxed (closed_of_plain (plain_spaces _)),
      visibleWidth_of_plain (plain_spaces _), length_spaces]
  have hfits : ∀ content ∈ bannerContents, visibleWidth content ≤ bannerWidth := by
    decide +kernel
  have hcontent : ∀ content ∈ bannerContents,
      visibleWidth (boxed (center content bannerWidth)) = bannerWidth + 2 := by
    intro content hmem
    have hclosed := closed_of_mem_bannerContents hmem
    rw [visibleWidth_boxed (closed_center hclosed _), visibleWidth_center hclosed,
      Nat.max_eq_left (hfits content hmem)]
  simp only [List.mem_append, List.mem_cons, List.not_mem_nil, or_false, List.mem_map] at hbox
  rcases hbox with ((rfl | rfl) | ⟨content, hmem, rfl⟩) | rfl | rfl
  · rw [visibleWidth_rule (by decide) (by decide)]
    rfl
  · rw [hblank]
  · rw [hcontent content hmem]
  · rw [hblank]
  · rw [visibleWidth_rule (by decide) (by decide)]
    rfl

/-- Centered text stands unchanged between two runs of spaces, of which the right one is equal or
one longer, and it fills the width exactly, or is left alone if it is wider.  All that the banner
centers is closed, and its lines are equally wide on every terminal. -/
theorem centered_text_fills_width :
    (∀ content width, Closed content.toList →
      (∃ left right, center content width = spaces left ++ content ++ spaces right ∧
        (right = left ∨ right = left + 1)) ∧
      visibleWidth (center content width) = max width (visibleWidth content)) ∧
    (∀ content ∈ bannerContents, Closed content.toList) ∧
    ∀ columns, ∃ shared, ∀ line ∈ bannerLinesIn columns, visibleWidth line = shared := by
  refine ⟨?_, fun _ => closed_of_mem_bannerContents, ?_⟩
  · intro content width hclosed
    obtain ⟨left, right, hcenter, hruns, -⟩ := exists_spaces_of_center content width
    exact ⟨⟨left, right, hcenter, hruns⟩, visibleWidth_center hclosed width⟩
  · intro columns
    exact ⟨_, fun _ => visibleWidth_of_mem_bannerLinesIn⟩

/-- Golden box drawing fills eight columns with two spaces before it and three behind it. -/
theorem golden_box_is_centered :
    let content := gold ++ "╭─╮" ++ resetStyle
    Closed content.toList ∧ center content 8 = spaces 2 ++ content ++ spaces 3 ∧
      visibleWidth (center content 8) = 8 := by
  intro content
  have hclosed : Closed content.toList := closed_styled _
  have hwidth : visibleWidth content = 3 := by decide +kernel
  have hcentered : center content 8 = spaces 2 ++ content ++ spaces 3 := by
    unfold center
    rw [hwidth]
    rfl
  obtain ⟨-, hfills⟩ := centered_text_fills_width.1 content 8 hclosed
  refine ⟨hclosed, hcentered, ?_⟩
  rw [hfills, hwidth]
  rfl

end Screen
end RomanTrade
