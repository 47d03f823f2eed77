import RomanTrade.Session

/-!
# Where an amount stops

An amount stops at its first token that has no symbol and is no literal numeral.  A session stops
at such a token only after it has made sure that no token of the amount is a priced material.
-/

namespace RomanTrade

theorem Symbol.ofLetter?_eq_none_iff {c : Char} :
    ofLetter? c = none ↔ ∀ symbol : Symbol, symbol.letter ≠ c := by
  rw [Option.eq_none_iff_forall_ne_some]
  refine forall_congr' fun symbol => not_congr ?_
  rw [ofLetter?_eq_some_iff, eq_comm]

namespace Numeral

theorem mapM_ofLetter?_eq_none_iff (letters : List Char) :
    letters.mapM Symbol.ofLetter? = none ↔ ∃ c ∈ letters, Symbol.ofLetter? c = none := by
  induction letters with
  | nil => simp
  | cons c rest ih =>
      cases hc : Symbol.ofLetter? c with
      | none => simp [hc]
      | some symbol =>
          rw [List.mapM_cons, hc]
          cases hrest : rest.mapM Symbol.ofLetter? <;> simp [hc, ← ih, hrest]

theorem ofText?_eq_none_iff {written : String} :
    ofText? written = none ↔ ∃ c ∈ written.toList, ∀ symbol : Symbol, symbol.letter ≠ c := by
  unfold ofText?
  simp only [mapM_ofLetter?_eq_none_iff, Symbol.ofLetter?_eq_none_iff]

theorem mapM_ofLetter?_eq_some_iff {letters : List Char} {numeral : Numeral} :
    letters.mapM Symbol.ofLetter? = some numeral ↔ letters = numeral.map Symbol.letter := by
  induction letters generalizing numeral with
  | nil => cases numeral <;> simp
  | cons c rest ih =>
      rw [List.mapM_cons]
      cases numeral with
      | nil => cases Symbol.ofLetter? c <;> cases rest.mapM Symbol.ofLetter? <;> simp
      | cons symbol more =>
          rw [List.map_cons, List.cons.injEq, ← Symbol.ofLetter?_eq_some_iff, ← ih]
          cases Symbol.ofLetter? c <;> cases rest.mapM Symbol.ofLetter? <;> simp

theorem toList_text (numeral : Numeral) : numeral.text.toList = numeral.map Symbol.letter :=
  String.toList_ofList

theorem ofText?_eq_some_iff {written : String} {numeral : Numeral} :
    ofText? written = some numeral ↔ written = numeral.text := by
  unfold ofText?
  rw [mapM_ofLetter?_eq_some_iff, ← toList_text, String.toList_inj]

theorem ofText?_eq_some_nil_iff {written : String} :
    ofText? written = some [] ↔ written = "" := by
  unfold ofText?
  rw [← String.toList_eq_nil_iff]
  cases written.toList with
  | nil => simp
  | cons c rest =>
      rw [List.mapM_cons]
      cases Symbol.ofLetter? c <;> cases rest.mapM Symbol.ofLetter? <;> simp

end Numeral

namespace Alphabet

/-- Resolution stops at the first token that reads as nothing. -/
theorem resolve_eq_missing_iff {alphabet : Alphabet} {tokens : List String} {token : String} :
    alphabet.resolve tokens = .missing token ↔
      tokens.find? (fun word => (alphabet.reading? word).isNone) = some token := by
  induction tokens with
  | nil => simp [resolve]
  | cons first rest ih =>
      unfold resolve
      cases hfirst : alphabet.reading? first with
      | none => simp [hfirst]
      | some symbols =>
          have hrest : (alphabet.resolve rest).map (symbols ++ ·) = .missing token ↔
              alphabet.resolve rest = .missing token := by
            cases alphabet.resolve rest <;> simp [Resolution.map]
          simp [hfirst, hrest, ih]

/-- A token reads as nothing exactly when it has no symbol and is no literal numeral. -/
theorem reading?_eq_none_iff {alphabet : Alphabet} {token : String} :
    alphabet.reading? token = none ↔
      alphabet.contains token = false ∧
        (token = "" ∨ ∃ c ∈ token.toList, ∀ symbol : Symbol, symbol.letter ≠ c) := by
  unfold reading? Lexicon.contains
  cases alphabet.get? token with
  | some symbol => simp
  | none =>
      simp only [Option.isSome_none, true_and]
      rw [← Numeral.ofText?_eq_none_iff, ← Numeral.ofText?_eq_some_nil_iff]
      cases Numeral.ofText? token with
      | none => simp
      | some literal => simp

theorem resolve_literal {alphabet : Alphabet} {numeral : Numeral}
    (htoken : alphabet.get? numeral.text = none) (hne : numeral ≠ []) :
    alphabet.resolve [numeral.text] = .resolved numeral := by
  have hliteral : Numeral.ofText? numeral.text = some numeral :=
    Numeral.ofText?_eq_some_iff.mpr rfl
  have hread : alphabet.reading? numeral.text = some numeral := by
    simp [Alphabet.reading?, htoken, hliteral, Option.filter, hne]
  simp [Alphabet.resolve, hread, Resolution.map]

theorem evaluate_eq_missing_iff {alphabet : Alphabet} {tokens : List String} {token : String} :
    alphabet.evaluate tokens = .ok (.missing token) ↔ alphabet.resolve tokens = .missing token := by
  unfold evaluate
  cases alphabet.resolve tokens with
  | missing other => simp
  | resolved numeral =>
      simp only
      cases numeral.violation? <;> simp

/-- An amount has a value when it resolves to a valid numeral. -/
theorem evaluate_eq_resolved_iff {alphabet : Alphabet} {tokens : List String} {value : Nat} :
    alphabet.evaluate tokens = .ok (.resolved value) ↔
      ∃ numeral, alphabet.resolve tokens = .resolved numeral ∧ numeral.IsValid ∧
        value = Numeral.wordOfTotal numeral.total := by
  unfold evaluate
  cases alphabet.resolve tokens with
  | missing other => simp
  | resolved numeral =>
      simp only [Resolution.resolved.injEq, Numeral.IsValid]
      cases hviolation : numeral.violation? with
      | none => simp [hviolation, eq_comm]
      | some violation =>
          simp only [reduceCtorEq, false_iff]
          rintro ⟨_, rfl, hvalid, _⟩
          rw [hviolation] at hvalid
          contradiction

end Alphabet

namespace Session

variable {session : Session} {amount : List String}

theorem evaluate_of_unpriced (h : ∀ word ∈ amount, session.prices.contains word = false) :
    session.evaluate amount = session.alphabet.evaluate amount := by
  have hany : amount.any session.prices.contains = false := by
    simpa using h
  simp [evaluate, rejectMaterials, hany]

theorem evaluate_of_priced {word : String} (hword : word ∈ amount)
    (hpriced : session.prices.contains word = true) :
    session.evaluate amount = .error (.malformed amount) := by
  have hany : amount.any session.prices.contains = true :=
    List.any_eq_true.mpr ⟨word, hword, hpriced⟩
  simp [evaluate, rejectMaterials, hany]

theorem evaluate_eq_missing_iff {token : String} :
    session.evaluate amount = .ok (.missing token) ↔
      (∀ word ∈ amount, session.prices.contains word = false) ∧
        session.alphabet.resolve amount = .missing token := by
  by_cases h : ∀ word ∈ amount, session.prices.contains word = false
  · rw [evaluate_of_unpriced h, Alphabet.evaluate_eq_missing_iff]
    exact (and_iff_right h).symm
  · have hpriced : ∃ word ∈ amount, session.prices.contains word = true := by
      simpa using h
    obtain ⟨word, hword, hpriced⟩ := hpriced
    rw [evaluate_of_priced hword hpriced]
    constructor
    · intro hmissing
      contradiction
    · intro hmissing
      exact absurd hmissing.1 h

theorem evaluate_eq_resolved_iff {value : Nat} :
    session.evaluate amount = .ok (.resolved value) ↔
      (∀ word ∈ amount, session.prices.contains word = false) ∧
        session.alphabet.evaluate amount = .ok (.resolved value) := by
  by_cases h : ∀ word ∈ amount, session.prices.contains word = false
  · rw [evaluate_of_unpriced h]
    exact (and_iff_right h).symm
  · have hpriced : ∃ word ∈ amount, session.prices.contains word = true := by
      simpa using h
    obtain ⟨word, hword, hpriced⟩ := hpriced
    rw [evaluate_of_priced hword hpriced]
    simp [h]

/-- An amount is refused for a priced material among its tokens, or for the numeral that they
spell. -/
theorem evaluate_eq_error_cases {fault : Fault} (h : session.evaluate amount = .error fault) :
    (fault = .malformed amount ∧ ∃ word ∈ amount, session.prices.contains word = true) ∨
      ∃ numeral violation, fault = .invalidNumeral (Text.joinWords amount) violation ∧
        session.alphabet.resolve amount = .resolved numeral ∧
        numeral.violation? = some violation := by
  by_cases hunpriced : ∀ word ∈ amount, session.prices.contains word = false
  · rw [evaluate_of_unpriced hunpriced] at h
    unfold Alphabet.evaluate at h
    split at h
    next => contradiction
    next numeral hresolved =>
      split at h
      next violation hbroken =>
        exact .inr ⟨numeral, violation, (Except.error.inj h).symm, hresolved, hbroken⟩
      next => contradiction
  · have hpriced : ∃ word ∈ amount, session.prices.contains word = true := by
      simpa using hunpriced
    obtain ⟨word, hmem, hword⟩ := hpriced
    rw [evaluate_of_priced hmem hword] at h
    exact .inl ⟨(Except.error.inj h).symm, word, hmem, hword⟩

/-- The token at which an amount stops is one of its tokens and stands for nothing so far. -/
theorem mem_of_evaluate_eq_missing {token : String}
    (h : session.evaluate amount = .ok (.missing token)) :
    token ∈ amount ∧ session.prices.contains token = false ∧
      session.alphabet.reading? token = none := by
  obtain ⟨hunpriced, hresolve⟩ := evaluate_eq_missing_iff.mp h
  have hfind := Alphabet.resolve_eq_missing_iff.mp hresolve
  have hmem : token ∈ amount := List.mem_of_find?_eq_some hfind
  have hread := List.find?_some hfind
  exact ⟨hmem, hunpriced token hmem, Option.isNone_iff_eq_none.mp hread⟩

end Session
end RomanTrade
