import RomanTrade.Proofs.FileContent
import RomanTrade.Screen.Ansi

/-!
# Texts without their control sequences

Control sequences are taken out of a text byte by byte.  Escape, the bracket and the letters are
single bytes, and no byte of a longer character is one of them.  So every character is kept whole
or dropped whole, and what is left is again a text.
-/

namespace RomanTrade
namespace Screen

/-- What is left of characters when their control sequences are taken out.  A sequence reaches from
escape and a bracket to the first ASCII letter behind them, or to the end if there is none. -/
inductive Stripped : List Char → List Char → Prop where
  | nothing : Stripped [] []
  | kept {c : Char} {rest visible : List Char} (plain : ¬ ['\x1b', '['] <+: c :: rest)
      (more : Stripped rest visible) : Stripped (c :: rest) (c :: visible)
  | closed {body rest visible : List Char} {letter : Char}
      (body_unended : ∀ c ∈ body, c.isAlpha = false) (ends : letter.isAlpha = true)
      (more : Stripped rest visible) :
      Stripped ('\x1b' :: '[' :: (body ++ letter :: rest)) visible
  | unclosed {body : List Char} (body_unended : ∀ c ∈ body, c.isAlpha = false) :
      Stripped ('\x1b' :: '[' :: body) []

theorem Stripped.sublist {text visible : List Char} (h : Stripped text visible) :
    visible.Sublist text := by
  induction h with
  | nothing => exact .slnil
  | kept _ _ ih => exact ih.cons_cons _
  | @closed body _ _ letter _ _ _ ih =>
      have hbehind := ih.trans (List.sublist_append_right (body ++ [letter]) _)
      rw [List.append_assoc] at hbehind
      exact (hbehind.cons '[').cons '\x1b'
  | unclosed => exact List.nil_sublist _

/-- Every text can be stripped. -/
theorem exists_stripped (text : List Char) : ∃ visible, Stripped text visible := by
  match text with
  | [] => exact ⟨[], .nothing⟩
  | c :: rest =>
    by_cases hopens : ['\x1b', '['] <+: c :: rest
    · obtain ⟨inner, hinner⟩ := hopens
      rw [← hinner]
      cases hends : inner.find? Char.isAlpha with
      | none =>
          refine ⟨[], .unclosed ?_⟩
          intro d hd
          exact Bool.eq_false_iff.mpr (List.find?_eq_none.mp hends d hd)
      | some letter =>
          obtain ⟨hletter, body, behind, rfl, hbody⟩ := List.find?_eq_some_iff_append.mp hends
          have hshorter : behind.length < (c :: rest).length := by
            rw [← hinner]
            simp only [List.cons_append, List.nil_append, List.length_cons, List.length_append]
            omega
          obtain ⟨visible, hvisible⟩ := exists_stripped behind
          refine ⟨visible, .closed ?_ hletter hvisible⟩
          intro d hd
          have hunended := hbody d hd
          rwa [Bool.not_eq_true'] at hunended
    · obtain ⟨visible, hvisible⟩ := exists_stripped rest
      exact ⟨c :: visible, .kept hopens hvisible⟩
termination_by text.length
decreasing_by
  · exact hshorter
  · exact Nat.lt_succ_self rest.length

/-! ## Bytes of characters -/

def encoded (text : List Char) : List UInt8 :=
  text.flatMap String.utf8EncodeChar

theorem encoded_cons (c : Char) (rest : List Char) :
    encoded (c :: rest) = String.utf8EncodeChar c ++ encoded rest :=
  List.flatMap_cons

theorem encoded_append (front back : List Char) :
    encoded (front ++ back) = encoded front ++ encoded back :=
  List.flatMap_append

theorem utf8EncodeChar_of_le {c : Char} (h : c.toNat ≤ 0x7f) :
    String.utf8EncodeChar c = [UInt8.ofNat c.toNat] := by
  unfold String.utf8EncodeChar
  exact if_pos h

theorem le_of_mem_utf8EncodeChar {c : Char} (h : 0x7f < c.toNat) {b : UInt8}
    (hb : b ∈ String.utf8EncodeChar c) : 0x80 ≤ b := by
  have hlong : ¬ c.val.toNat ≤ 0x7f := Nat.not_le.mpr h
  rw [UInt8.le_iff_toNat_le]
  unfold String.utf8EncodeChar at hb
  rw [if_neg hlong] at hb
  split at hb
  · simp only [List.mem_cons, List.not_mem_nil, or_false] at hb
    rcases hb with rfl | rfl <;> simp only [UInt8.toNat_ofNat', UInt8.toNat_ofNat] <;> omega
  · split at hb
    · simp only [List.mem_cons, List.not_mem_nil, or_false] at hb
      rcases hb with rfl | rfl | rfl <;>
        simp only [UInt8.toNat_ofNat', UInt8.toNat_ofNat] <;> omega
    · simp only [List.mem_cons, List.not_mem_nil, or_false] at hb
      rcases hb with rfl | rfl | rfl | rfl <;>
        simp only [UInt8.toNat_ofNat', UInt8.toNat_ofNat] <;> omega

theorem isAlpha_iff {c : Char} :
    c.isAlpha = true ↔
      65 ≤ c.toNat ∧ c.toNat ≤ 90 ∨ 97 ≤ c.toNat ∧ c.toNat ≤ 122 := by
  have hupper : c.isUpper = decide (65 ≤ c.val ∧ c.val ≤ 90) := rfl
  have hlower : c.isLower = (decide (97 ≤ c.val) && decide (c.val ≤ 122)) := rfl
  have hletter : c.isAlpha = (c.isUpper || c.isLower) := rfl
  simp only [hletter, hupper, hlower, Bool.or_eq_true, Bool.and_eq_true, decide_eq_true_eq,
    UInt32.le_iff_toNat_le]
  exact Iff.rfl

theorem isLetterByte_iff {b : UInt8} :
    isLetterByte b = true ↔
      65 ≤ b.toNat ∧ b.toNat ≤ 90 ∨ 97 ≤ b.toNat ∧ b.toNat ≤ 122 := by
  simp only [isLetterByte, Bool.or_eq_true, Bool.and_eq_true, decide_eq_true_eq,
    UInt8.le_iff_toNat_le]
  exact Iff.rfl

theorem toNat_byte_of_le {c : Char} (h : c.toNat ≤ 0x7f) :
    (UInt8.ofNat c.toNat).toNat = c.toNat := by
  rw [UInt8.toNat_ofNat']
  omega

/-- A character that is one byte is known by that byte. -/
theorem eq_of_byte_eq {c d : Char} (hc : c.toNat ≤ 0x7f) (hd : d.toNat ≤ 0x7f)
    (h : UInt8.ofNat c.toNat = UInt8.ofNat d.toNat) : c = d := by
  have hbytes := congrArg UInt8.toNat h
  rw [toNat_byte_of_le hc, toNat_byte_of_le hd] at hbytes
  exact Char.toNat_inj.mp hbytes

theorem isLetterByte_of_le {c : Char} (h : c.toNat ≤ 0x7f) :
    isLetterByte (UInt8.ofNat c.toNat) = c.isAlpha := by
  rw [Bool.eq_iff_iff, isLetterByte_iff, isAlpha_iff, toNat_byte_of_le h]

theorem isAlpha_of_lt {c : Char} (h : 0x7f < c.toNat) : c.isAlpha = false := by
  rw [Bool.eq_false_iff, ne_eq, isAlpha_iff]
  omega

theorem visibleBytes_true_cons (b : UInt8) (rest : List UInt8) :
    visibleBytes true (b :: rest) = visibleBytes (!isLetterByte b) rest :=
  rfl

theorem visibleBytes_false_cons {b : UInt8} {rest : List UInt8}
    (h : ¬ (b = escapeByte ∧ rest.head? = some bracketByte)) :
    visibleBytes false (b :: rest) = b :: visibleBytes false rest := by
  rw [visibleBytes, if_neg Bool.false_ne_true, if_neg]
  simpa using h

/-- The bytes of longer characters do not end a sequence, and none of them begins one. -/
theorem visibleBytes_of_long {bytes : List UInt8} (hlong : ∀ b ∈ bytes, 0x80 ≤ b)
    (rest : List UInt8) :
    visibleBytes true (bytes ++ rest) = visibleBytes true rest ∧
      visibleBytes false (bytes ++ rest) = bytes ++ visibleBytes false rest := by
  induction bytes with
  | nil => exact ⟨rfl, rfl⟩
  | cons b bytes ih =>
      rw [List.forall_mem_cons] at hlong
      have hvalue : 128 ≤ b.toNat := UInt8.le_iff_toNat_le.mp hlong.1
      have hletter : isLetterByte b = false := by
        rw [Bool.eq_false_iff, ne_eq, isLetterByte_iff]
        omega
      have hescape : b ≠ escapeByte := by
        rintro rfl
        exact absurd hvalue (by decide)
      obtain ⟨hinside, houtside⟩ := ih hlong.2
      constructor
      · rw [List.cons_append, visibleBytes_true_cons, hletter]
        exact hinside
      · rw [List.cons_append, visibleBytes_false_cons (fun h => hescape h.1), houtside]
        rfl

/-- Inside a sequence a character is dropped, and only an ASCII letter ends the sequence. -/
theorem visibleBytes_inside (c : Char) (rest : List UInt8) :
    visibleBytes true (String.utf8EncodeChar c ++ rest) = visibleBytes (!c.isAlpha) rest := by
  by_cases hshort : c.toNat ≤ 0x7f
  · rw [utf8EncodeChar_of_le hshort, List.singleton_append, visibleBytes_true_cons,
      isLetterByte_of_le hshort]
  · have hlong := Nat.lt_of_not_le hshort
    rw [isAlpha_of_lt hlong]
    exact (visibleBytes_of_long (fun _ hb => le_of_mem_utf8EncodeChar hlong hb) rest).1

theorem visibleBytes_inside_body {body : List Char} (hbody : ∀ c ∈ body, c.isAlpha = false)
    (rest : List UInt8) : visibleBytes true (encoded body ++ rest) = visibleBytes true rest := by
  induction body with
  | nil => rfl
  | cons c body ih =>
      rw [List.forall_mem_cons] at hbody
      rw [encoded_cons, List.append_assoc, visibleBytes_inside, hbody.1]
      exact ih hbody.2

theorem visibleBytes_opened (rest : List UInt8) :
    visibleBytes false (escapeByte :: bracketByte :: rest) = visibleBytes true rest :=
  rfl

theorem head?_of_head?_encoded {text : List Char}
    (h : (encoded text).head? = some bracketByte) : text.head? = some '[' := by
  cases text with
  | nil => contradiction
  | cons c rest =>
      rw [encoded_cons] at h
      by_cases hshort : c.toNat ≤ 0x7f
      · rw [utf8EncodeChar_of_le hshort] at h
        have hbracket : c = '[' := eq_of_byte_eq hshort (by decide) (Option.some.inj h)
        rw [hbracket]
        rfl
      · have hlong := Nat.lt_of_not_le hshort
        have hsome : String.utf8EncodeChar c ≠ [] := String.utf8EncodeChar_ne_nil
        obtain ⟨b, bytes, hbytes⟩ := List.exists_cons_of_ne_nil hsome
        have hb := le_of_mem_utf8EncodeChar hlong (hbytes ▸ List.mem_cons_self)
        rw [hbytes] at h
        rw [Option.some.inj h] at hb
        exact absurd hb (by decide)

/-- Outside of sequences a character is kept, unless it is the escape that opens one. -/
theorem visibleBytes_outside {c : Char} {rest : List Char}
    (hplain : ¬ ['\x1b', '['] <+: c :: rest) :
    visibleBytes false (encoded (c :: rest)) =
      String.utf8EncodeChar c ++ visibleBytes false (encoded rest) := by
  rw [encoded_cons]
  by_cases hshort : c.toNat ≤ 0x7f
  · rw [utf8EncodeChar_of_le hshort]
    apply visibleBytes_false_cons
    rintro ⟨hescape, hbracket⟩
    have hopens : c = '\x1b' := eq_of_byte_eq hshort (by decide) hescape
    obtain ⟨behind, hbehind⟩ := List.head?_eq_some_iff.mp (head?_of_head?_encoded hbracket)
    rw [hopens, hbehind] at hplain
    exact hplain ⟨behind, rfl⟩
  · have hlong := Nat.lt_of_not_le hshort
    exact (visibleBytes_of_long (fun _ hb => le_of_mem_utf8EncodeChar hlong hb) _).2

/-- The bytes that are kept are those of the characters that are left. -/
theorem Stripped.visibleBytes_encoded {text visible : List Char} (h : Stripped text visible) :
    visibleBytes false (encoded text) = encoded visible := by
  induction h with
  | nothing => rfl
  | kept plain _ ih => rw [visibleBytes_outside plain, ih, encoded_cons]
  | @closed body rest visible letter body_unended ends _ ih =>
      calc visibleBytes false (encoded ('\x1b' :: '[' :: (body ++ letter :: rest))) =
          visibleBytes true (encoded (body ++ letter :: rest)) := visibleBytes_opened _
        _ = visibleBytes true (encoded (letter :: rest)) := by
          rw [encoded_append, visibleBytes_inside_body body_unended]
        _ = visibleBytes false (encoded rest) := by
          rw [encoded_cons, visibleBytes_inside, ends]
          rfl
        _ = encoded visible := ih
  | @unclosed body body_unended =>
      have hinside := visibleBytes_inside_body body_unended []
      rw [List.append_nil] at hinside
      exact (visibleBytes_opened _).trans hinside

/-! ## Texts -/

theorem toList_loop (bytes : ByteArray) (i : Nat) (read : List UInt8) :
    ByteArray.toList.loop bytes i read = read.reverse ++ bytes.data.toList.drop i := by
  fun_induction ByteArray.toList.loop bytes i read with
  | case1 i read hleft ih =>
      have hi : i < bytes.data.toList.length := hleft
      rw [ih, List.drop_eq_getElem_cons hi]
      simp [ByteArray.get!, hleft]
  | case2 i read hdone =>
      have hi : bytes.data.toList.length ≤ i := Nat.le_of_not_lt hdone
      rw [List.drop_eq_nil_of_le hi, List.append_nil]

theorem toList_toUTF8 (text : String) : text.toUTF8.toList = encoded text.toList := by
  have hbytes : text.toUTF8 = (encoded text.toList).toByteArray := by
    conv => lhs; rw [← String.ofList_toList (s := text)]
    rfl
  unfold ByteArray.toList
  rw [toList_loop, hbytes, List.toList_data_toByteArray]
  rfl

theorem toByteArray_encoded (text : List Char) :
    (encoded text).toByteArray = (String.ofList text).toByteArray :=
  rfl

theorem Stripped.kept_bytes {text : String} {visible : List Char}
    (h : Stripped text.toList visible) :
    (visibleBytes false text.toUTF8.toList).toByteArray =
      (String.ofList visible).toByteArray := by
  rw [toList_toUTF8, h.visibleBytes_encoded, toByteArray_encoded]

theorem Stripped.visibleText_eq {text : String} {visible : List Char}
    (h : Stripped text.toList visible) : visibleText text = String.ofList visible := by
  unfold visibleText
  rw [h.kept_bytes, FileTree.fromUTF8?_toByteArray]

/-- The bytes that are kept of a text are valid and are read as the visible text; it is what is
left when the control sequences are taken out character by character, and nothing is put into it. -/
theorem visible_bytes_are_stripped_text (text : String) :
    let kept := (visibleBytes false text.toUTF8.toList).toByteArray
    kept.IsValidUTF8 ∧ String.fromUTF8? kept = some (visibleText text) ∧
      (∀ visible, Stripped text.toList visible ↔ visible = (visibleText text).toList) ∧
      (visibleText text).toList.Sublist text.toList := by
  intro kept
  obtain ⟨left, hleft⟩ := exists_stripped text.toList
  have hkept : kept = (String.ofList left).toByteArray := hleft.kept_bytes
  have hvisible : (visibleText text).toList = left := by
    rw [hleft.visibleText_eq, String.toList_ofList]
  refine ⟨?_, ?_, ?_, ?_⟩
  · rw [hkept]
    exact (String.ofList left).isValidUTF8
  · rw [hkept, FileTree.fromUTF8?_toByteArray, hleft.visibleText_eq]
  · intro visible
    rw [hvisible]
    constructor
    · intro h
      have hsame := h.visibleText_eq.symm.trans hleft.visibleText_eq
      exact String.ofList_injective hsame
    · rintro rfl
      exact hleft
  · rw [hvisible]
    exact hleft.sublist

end Screen
end RomanTrade
