import RomanTrade.Proofs.Refusal

/-!
# Statements that waited

A statement that stops at a token has passed the tests of its material.  The definitions that it
asks for leave the prices alone, so the tests are passed again when the statement is run again,
unless one of the definitions has taken the name of the material.
-/

namespace RomanTrade

/-- The material of a statement, if it has one, passes its tests. -/
def Session.Admits (session : Session) : Statement → Prop
  | .definition _ | .valueQuery _ => True
  | .priceFact _ material _ => session.isMaterialName material = true
  | .priceQuery _ material =>
      session.isMaterialName material = true ∧ session.prices.contains material = true

theorem Session.Admits.named {session : Session} {statement : Statement} {material : String}
    (hadmits : session.Admits statement) (hslot : statement.material? = some material) :
    session.isMaterialName material = true := by
  cases statement with
  | definition | valueQuery => contradiction
  | priceFact =>
      cases hslot
      exact hadmits
  | priceQuery =>
      cases hslot
      exact hadmits.1

theorem Session.known_of_unitPrice {session : Session} {material : String} {price : Price}
    (h : session.unitPrice material = .ok price) :
    session.isMaterialName material = true ∧ session.prices.contains material = true := by
  unfold unitPrice at h
  split at h
  next => contradiction
  next hcheck =>
    split at h
    next hprice => exact ⟨isMaterialName_of_checkMaterial hcheck, by simp [Lexicon.contains, hprice]⟩
    next => contradiction

/-- The ways in which a statement ends when the session has everything that it asks for. -/
inductive Outcome.IsVerdict : Outcome → Prop where
  | learned (note : String) : IsVerdict (.replied (.learned note))
  | answer (text : String) : IsVerdict (.replied (.answer text))
  | invalidNumeral (written : String) (violation : Violation) :
      IsVerdict (.refused (.invalidNumeral written violation))
  | fractionalUnitPrice (material price : String) :
      IsVerdict (.refused (.fractionalUnitPrice material price))
  | priceOverflow (material : String) : IsVerdict (.refused (.priceOverflow material))

namespace Interpreter

variable {interpreter : Interpreter} {statement : Statement} {tokens : List String}
  {token material : String}

theorem admits_of_run_eq_missing
    (hstops : (interpreter.run statement).1 = .replied (.missing token)) :
    interpreter.session.Admits statement := by
  cases statement with
  | definition definition => trivial
  | valueQuery amount => trivial
  | priceFact amount material credits =>
      simp only [run, learnPrice] at hstops
      split at hstops
      next => contradiction
      next hcheck => exact Session.isMaterialName_of_checkMaterial hcheck
  | priceQuery amount material =>
      simp only [run, answerPrice] at hstops
      split at hstops
      next => contradiction
      next hknown => exact Session.known_of_unitPrice hknown

/-- A line that stops at a token is a statement that has passed the tests of its material. -/
theorem exists_admitted_of_stops
    (hstops : (interpreter.execute tokens).1 = .replied (.missing token)) :
    ∃ statement, Statement.ofTokens tokens = .ok statement ∧
      interpreter.session.Admits statement ∧
      interpreter.session.evaluate statement.amount = .ok (.missing token) := by
  unfold execute at hstops
  split at hstops
  next => contradiction
  next statement hread =>
    refine ⟨statement, hread, admits_of_run_eq_missing hstops, ?_⟩
    have hstep := interpreter.run_step statement
    rw [hstops] at hstep
    generalize (interpreter.run statement).2 = after at hstep
    cases hstep with
    | wait hmissing => exact hmissing

theorem run_of_unnamed_fact {amount : List String} {credits : Nat}
    (hunnamed : interpreter.session.isMaterialName material = false) :
    (interpreter.run (.priceFact amount material credits)).1 =
      .refused (.notAMaterial material) := by
  simp [run, learnPrice, Session.checkMaterial, hunnamed]

/-- A statement with an admitted material and no priced token in its amount reaches a verdict,
unless it stops at a token or ends the program. -/
theorem isVerdict_of_admitted (hadmits : interpreter.session.Admits statement)
    (hamount : statement.amount ≠ [])
    (hunpriced : ∀ word ∈ statement.amount, interpreter.session.prices.contains word = false)
    (hends : ∀ token, (interpreter.run statement).1 ≠ .replied (.missing token))
    (hgoes : (interpreter.run statement).1 ≠ .zeroQuantity) :
    (interpreter.run statement).1.IsVerdict := by
  cases houtcome : (interpreter.run statement).1 with
  | zeroQuantity => exact absurd houtcome hgoes
  | replied reply =>
      cases reply with
      | learned note => exact .learned note
      | answer text => exact .answer text
      | missing token => exact absurd houtcome (hends token)
  | refused fault =>
      have hrefuses := refuses_of_run houtcome
      cases hrefuses with
      | reservedWord | tokenIsMaterial => simp [Statement.amount] at hamount
      | notAMaterial hslot hunnamed =>
          rw [hadmits.named hslot] at hunnamed
          contradiction
      | unknownMaterial habsent =>
          rw [hadmits.2] at habsent
          contradiction
      | malformed hmem hpriced =>
          rw [hunpriced _ hmem] at hpriced
          contradiction
      | invalidNumeral => exact .invalidNumeral _ _
      | fractionalUnitPrice => exact .fractionalUnitPrice _ _
      | priceOverflow => exact .priceOverflow _

/-- A line is executed again and again, and each token that it stops at, one of `asked` after the
other, is given a symbol by an answer that is taken. -/
inductive Answered (tokens : List String) : Interpreter → List String → Interpreter → Prop where
  | done (interpreter : Interpreter) : Answered tokens interpreter [] interpreter
  | next {first second last : Interpreter} {token note : String} {answer asked : List String}
      (stops : (first.execute tokens).1 = .replied (.missing token))
      (taken : first.supplyDefinition token answer = (.replied (.learned note), second))
      (rest : Answered tokens second asked last) : Answered tokens first (token :: asked) last

namespace Answered

variable {first last : Interpreter} {asked : List String}

theorem prices_eq (hanswered : Answered tokens first asked last) :
    last.session.prices = first.session.prices := by
  induction hanswered with
  | done => rfl
  | next _ htaken _ ih =>
      obtain ⟨symbol, _, _, rfl⟩ := of_supplyDefinition_eq_replied _ htaken
      exact ih

theorem contains_iff (hanswered : Answered tokens first asked last) (name : String) :
    last.session.alphabet.contains name = true ↔
      name ∈ asked ∨ first.session.alphabet.contains name = true := by
  induction hanswered with
  | done => simp
  | next _ htaken _ ih =>
      obtain ⟨symbol, _, _, rfl⟩ := of_supplyDefinition_eq_replied _ htaken
      rw [ih, List.mem_cons, Session.withSymbol, Lexicon.contains_insert, or_left_comm, or_assoc]

theorem unpriced (hanswered : Answered tokens first asked last) :
    ∀ token ∈ asked, first.session.prices.contains token = false := by
  induction hanswered with
  | done => simp
  | next _ htaken _ ih =>
      obtain ⟨symbol, _, hunpriced, rfl⟩ := of_supplyDefinition_eq_replied _ htaken
      intro name hname
      rcases List.mem_cons.mp hname with rfl | hname
      · exact hunpriced
      · exact ih name hname

theorem mem_amount (hanswered : Answered tokens first asked last)
    (hread : Statement.ofTokens tokens = .ok statement) :
    ∀ token ∈ asked, token ∈ statement.amount := by
  induction hanswered with
  | done => simp
  | next hstops _ _ ih =>
      intro name hname
      rcases List.mem_cons.mp hname with rfl | hname
      · obtain ⟨other, hother, _, hmissing⟩ := exists_admitted_of_stops hstops
        obtain rfl := Except.ok.inj (hread.symm.trans hother)
        exact (Session.mem_of_evaluate_eq_missing hmissing).1
      · exact ih name hname

theorem isMaterialName_iff (hanswered : Answered tokens first asked last)
    (hnamed : first.session.isMaterialName material = true) :
    last.session.isMaterialName material = true ↔ material ∉ asked := by
  simp only [Session.isMaterialName, Bool.and_eq_true, Bool.not_eq_true'] at hnamed ⊢
  obtain ⟨hletters, hfree⟩ := hnamed
  rw [and_iff_right hletters, ← Bool.not_eq_true, hanswered.contains_iff material, hfree]
  simp

/-- Definitions that do not take the name of the material leave a statement admitted. -/
theorem admits (hanswered : Answered tokens first asked last)
    (hadmits : first.session.Admits statement)
    (hother : ∀ material ∈ asked, statement.material? ≠ some material) :
    last.session.Admits statement := by
  cases statement with
  | definition | valueQuery => trivial
  | priceFact amount material credits =>
      exact (hanswered.isMaterialName_iff hadmits).mpr fun hasked => hother material hasked rfl
  | priceQuery amount material =>
      refine ⟨(hanswered.isMaterialName_iff hadmits.1).mpr fun hasked =>
        hother material hasked rfl, ?_⟩
      rw [hanswered.prices_eq]
      exact hadmits.2

end Answered

/-- A statement that stops at a token, and is given a symbol for each token that it asks for, ends
with a verdict; but a price fact that asks for the name of its own material is then refused, as
this name stands for a symbol now. -/
theorem answered_statements_reach_verdict {first last : Interpreter} {tokens asked : List String}
    {token : String} (hstops : (first.execute tokens).1 = .replied (.missing token))
    (hanswered : Answered tokens first asked last)
    (hends : ∀ other, (last.execute tokens).1 ≠ .replied (.missing other))
    (hgoes : (last.execute tokens).1 ≠ .zeroQuantity) :
    ∃ statement, Statement.ofTokens tokens = .ok statement ∧
      ((∀ material ∈ asked, statement.material? ≠ some material) →
        (last.execute tokens).1.IsVerdict) ∧
      ∀ material ∈ asked, statement.material? = some material →
        (∃ amount credits, statement = .priceFact amount material credits ∧ material ∈ amount) ∧
          (last.execute tokens).1 = .refused (.notAMaterial material) := by
  obtain ⟨statement, hread, hadmits, hmissing⟩ := exists_admitted_of_stops hstops
  obtain ⟨hmem, _⟩ := Session.mem_of_evaluate_eq_missing hmissing
  have hunpriced := (Session.evaluate_eq_missing_iff.mp hmissing).1
  have hrun : last.execute tokens = last.run statement := by
    simp only [execute, hread]
  rw [hrun] at hends hgoes ⊢
  refine ⟨statement, hread, ?_, ?_⟩
  · intro hother
    refine isVerdict_of_admitted (hanswered.admits hadmits hother) (List.ne_nil_of_mem hmem) ?_
      hends hgoes
    rw [hanswered.prices_eq]
    exact hunpriced
  · intro material hasked hslot
    cases statement with
    | definition | valueQuery => contradiction
    | priceFact amount other credits =>
        cases hslot
        have hunnamed : last.session.isMaterialName material = false := by
          rw [Bool.eq_false_iff, ne_eq, hanswered.isMaterialName_iff hadmits]
          exact not_not_intro hasked
        exact ⟨⟨amount, credits, rfl, hanswered.mem_amount hread material hasked⟩,
          run_of_unnamed_fact hunnamed⟩
    | priceQuery amount other =>
        -- The material of a question has a price, and no token that is asked for has one.
        cases hslot
        have hpriced := hadmits.2
        rw [hanswered.unpriced material hasked] at hpriced
        contradiction

theorem gold_is_priced_after_two_answers :
    let tokens := ["glob", "prok", "Gold", "is", "57800", "Credits"]
    let first : Interpreter := {}
    let second := (first.supplyDefinition "glob" ["glob", "is", "I"]).2
    let last := (second.supplyDefinition "prok" ["prok", "is", "V"]).2
    (first.execute tokens).1 = .replied (.missing "glob") ∧
      Answered tokens first ["glob", "prok"] last ∧ (last.execute tokens).1.IsVerdict := by
  intro tokens first second last
  have hstops : (first.execute tokens).1 = .replied (.missing "glob") := by decide
  have hagain : (second.execute tokens).1 = .replied (.missing "prok") := by decide
  have hlearned : (last.execute tokens).1 =
      .replied (.learned "Priced Gold at 14450 Credits per unit") := by decide
  have hglob : first.supplyDefinition "glob" ["glob", "is", "I"] =
      (.replied (.learned "Defined glob as I"), second) := by decide
  have hprok : second.supplyDefinition "prok" ["prok", "is", "V"] =
      (.replied (.learned "Defined prok as V"), last) := by decide
  have hanswered : Answered tokens first ["glob", "prok"] last :=
    .next hstops hglob (.next hagain hprok (.done last))
  obtain ⟨statement, hread, hverdict, _⟩ :=
    answered_statements_reach_verdict hstops hanswered (by simp [hlearned]) (by simp [hlearned])
  refine ⟨hstops, hanswered, hverdict ?_⟩
  have hfact : Statement.ofTokens tokens = .ok (.priceFact ["glob", "prok"] "Gold" 57800) := rfl
  obtain rfl := Except.ok.inj (hfact.symm.trans hread)
  decide

/-- `Glob Glob is 5 Credits` asks for `Glob`; once it is defined, `Glob` is no material. -/
theorem own_material_is_lost_to_an_answer :
    let tokens := ["Glob", "Glob", "is", "5", "Credits"]
    let first : Interpreter := {}
    let supplied := first.supplyDefinition "Glob" ["Glob", "is", "I"]
    (first.execute tokens).1 = .replied (.missing "Glob") ∧
      supplied.1 = .replied (.learned "Defined Glob as I") ∧
      (supplied.2.execute tokens).1 = .refused (.notAMaterial "Glob") := by
  decide

end Interpreter
end RomanTrade
