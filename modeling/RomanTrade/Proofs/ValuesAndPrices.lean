import RomanTrade.Proofs.SessionAgreement

/-!
# Values among prices

Price facts leave the alphabet alone, but they make materials of names, and a material stands for no
number.  So the value of an amount stays the same until one of its own tokens is priced, and only a
token that was read as a roman numeral can be.
-/

namespace RomanTrade

namespace Alphabet

theorem exists_reading_of_resolved {alphabet : Alphabet} {tokens : List String} {numeral : Numeral}
    (hresolved : alphabet.resolve tokens = .resolved numeral) :
    ∀ word ∈ tokens, ∃ symbols, alphabet.reading? word = some symbols := by
  induction tokens generalizing numeral with
  | nil => simp
  | cons first rest ih =>
      unfold resolve at hresolved
      cases hfirst : alphabet.reading? first with
      | none => simp [hfirst] at hresolved
      | some symbols =>
        cases hrest : alphabet.resolve rest with
        | missing token => simp [hfirst, hrest, Resolution.map] at hresolved
        | resolved more =>
            intro word hword
            rcases List.mem_cons.mp hword with rfl | hword
            · exact ⟨symbols, hfirst⟩
            · exact ih hrest word hword

/-- A token without a symbol is read as the roman numeral that it spells. -/
theorem exists_literal_of_reading {alphabet : Alphabet} {word : String} {symbols : Numeral}
    (hread : alphabet.reading? word = some symbols) (htokenless : alphabet.contains word = false) :
    symbols ≠ [] ∧ word = symbols.text := by
  have habsent : alphabet.get? word = none := by
    simpa [Lexicon.contains] using htokenless
  simp only [reading?, habsent, Option.filter_eq_some_iff] at hread
  obtain ⟨hliteral, hne⟩ := hread
  constructor
  · simpa using hne
  · exact Numeral.ofText?_eq_some_iff.mp hliteral

end Alphabet

namespace Session

/-- From `before` to `after` the words in `priced` became materials, and nothing else did. -/
structure Repriced (before after : Session) (priced : List String) : Prop where
  alphabet : after.alphabet = before.alphabet
  contains_iff : ∀ word, after.prices.contains word = true ↔
    word ∈ priced ∨ before.prices.contains word = true
  named : ∀ word ∈ priced, before.isMaterialName word = true

theorem Repriced.refl (session : Session) : Repriced session session [] := by
  constructor
  · rfl
  · simp
  · simp

theorem Repriced.withPrice {before after : Session} {material : String} {price : Price}
    {priced : List String} (hnamed : before.isMaterialName material = true)
    (hrest : Repriced (before.withPrice material price) after priced) :
    Repriced before after (material :: priced) := by
  constructor
  · exact hrest.alphabet
  · intro word
    have hfirst : (before.withPrice material price).prices.contains word = true ↔
        word = material ∨ before.prices.contains word = true :=
      Lexicon.contains_insert _ _ _ _
    rw [hrest.contains_iff, hfirst, List.mem_cons, or_left_comm, or_assoc]
  · intro word hword
    rcases List.mem_cons.mp hword with rfl | hword
    · exact hnamed
    · exact hrest.named word hword

variable {before after : Session} {priced amount : List String} {value : Nat}

/-- Only a roman numeral can be priced among the tokens of an amount that has a value. -/
theorem Repriced.literal_of_mem (hrepriced : Repriced before after priced)
    (hcounted : before.evaluate amount = .ok (.resolved value)) {word : String}
    (hmem : word ∈ amount) (hword : word ∈ priced) :
    before.alphabet.contains word = false ∧
      ∃ numeral : Numeral, numeral ≠ [] ∧ word = numeral.text := by
  have hnamed := hrepriced.named word hword
  simp only [isMaterialName, Bool.and_eq_true, Bool.not_eq_true'] at hnamed
  have hvalue := (evaluate_eq_resolved_iff.mp hcounted).2
  obtain ⟨numeral, hresolved, _⟩ := Alphabet.evaluate_eq_resolved_iff.mp hvalue
  obtain ⟨symbols, hread⟩ := Alphabet.exists_reading_of_resolved hresolved word hmem
  exact ⟨hnamed.2, symbols, Alphabet.exists_literal_of_reading hread hnamed.2⟩

theorem Repriced.evaluate_of_mem (hrepriced : Repriced before after priced) {word : String}
    (hmem : word ∈ amount) (hword : word ∈ priced) :
    after.evaluate amount = .error (.malformed amount) := by
  apply evaluate_of_priced hmem
  exact (hrepriced.contains_iff word).mpr (.inl hword)

theorem Repriced.evaluate_of_spared (hrepriced : Repriced before after priced)
    (hcounted : before.evaluate amount = .ok (.resolved value))
    (hspared : ∀ word ∈ amount, word ∉ priced) :
    after.evaluate amount = .ok (.resolved value) := by
  obtain ⟨hunpriced, hvalue⟩ := evaluate_eq_resolved_iff.mp hcounted
  have hstill : ∀ word ∈ amount, after.prices.contains word = false := by
    intro word hmem
    rw [Bool.eq_false_iff]
    intro hpriced
    rcases (hrepriced.contains_iff word).mp hpriced with hword | hbefore
    · exact hspared word hmem hword
    · rw [hunpriced word hmem] at hbefore
      contradiction
  rw [evaluate_of_unpriced hstill, hrepriced.alphabet]
  exact hvalue

end Session

namespace Interpreter

/-- A price fact makes a material of a name that is free for one, or changes nothing. -/
theorem execute_priceFact_cases (interpreter : Interpreter) {tokens amount : List String}
    {material : String} {credits : Nat}
    (hread : Statement.ofTokens tokens = .ok (.priceFact amount material credits)) :
    (interpreter.stored? (.execute tokens) = none ∧ (interpreter.execute tokens).2 = interpreter) ∨
      ∃ price, interpreter.stored? (.execute tokens) = some material ∧
        interpreter.session.isMaterialName material = true ∧
        (interpreter.execute tokens).2.session = interpreter.session.withPrice material price := by
  have hmade := Call.statement?_execute hread
  have hstep := interpreter.run_step (.priceFact amount material credits)
  rw [← interpreter.execute_eq_run hread] at hstep
  cases hfirst : interpreter.execute tokens with
  | mk outcome next =>
    rw [hfirst] at hstep
    cases hstep with
    | refuse | wait | collapse =>
        left
        simp only [stored?, perform, hfirst, and_self]
    | @learnPrice _ _ _ _ price hnamed =>
        right
        refine ⟨price, ?_, hnamed, rfl⟩
        simp only [stored?, perform, hfirst, hmade, Option.bind_some, Statement.subject?]

theorem repriced_after_facts (interpreter : Interpreter) {facts : List (List String)}
    (hfacts : ∀ tokens ∈ facts, ∃ amount material credits,
      Statement.ofTokens tokens = .ok (.priceFact amount material credits)) :
    Session.Repriced interpreter.session (interpreter.after (facts.map .execute)).session
      (interpreter.stored (facts.map .execute)) := by
  induction facts generalizing interpreter with
  | nil => exact .refl interpreter.session
  | cons tokens rest ih =>
      rw [List.forall_mem_cons] at hfacts
      obtain ⟨⟨amount, material, credits, hread⟩, hrest⟩ := hfacts
      have hlater := ih (interpreter.execute tokens).2 hrest
      have hafter : interpreter.after ((tokens :: rest).map .execute) =
          (interpreter.execute tokens).2.after (rest.map .execute) := rfl
      have hstored : interpreter.stored ((tokens :: rest).map .execute) =
          (interpreter.stored? (.execute tokens)).toList ++
            (interpreter.execute tokens).2.stored (rest.map .execute) := rfl
      rw [hafter, hstored]
      rcases interpreter.execute_priceFact_cases hread with
        ⟨hnothing, hsame⟩ | ⟨price, hmaterial, hnamed, hpriced⟩
      · rw [hsame] at hlater ⊢
        rw [hnothing]
        exact hlater
      · rw [hpriced] at hlater
        rw [hmaterial]
        exact .withPrice hnamed hlater

/-- After any price facts a question for a value is answered as before, unless they have priced a
token of its amount.  Such a token was read as a roman numeral; now the question is malformed. -/
theorem values_are_lost_only_to_prices (interpreter : Interpreter) {query amount : List String}
    {text : String} {facts : List (List String)}
    (hread : Statement.ofTokens query = .ok (.valueQuery amount))
    (hanswered : (interpreter.execute query).1 = .replied (.answer text))
    (hfacts : ∀ tokens ∈ facts, ∃ amount material credits,
      Statement.ofTokens tokens = .ok (.priceFact amount material credits)) :
    let priced := interpreter.stored (facts.map .execute)
    let later := interpreter.after (facts.map .execute)
    later.session.alphabet = interpreter.session.alphabet ∧
      ((∀ word ∈ amount, word ∉ priced) → (later.execute query).1 = .replied (.answer text)) ∧
      ∀ word ∈ amount, word ∈ priced →
        (∃ echoed, (later.execute query).1 = .refused (.malformed echoed)) ∧
          interpreter.session.alphabet.contains word = false ∧
          ∃ numeral : Numeral, numeral ≠ [] ∧ word = numeral.text := by
  intro priced later
  have hrepriced : Session.Repriced interpreter.session later.session priced :=
    interpreter.repriced_after_facts hfacts
  rw [interpreter.execute_eq_run hread] at hanswered
  rw [later.execute_eq_run hread]
  have hstep := interpreter.run_step (.valueQuery amount)
  rw [hanswered] at hstep
  generalize (interpreter.run (.valueQuery amount)).2 = next at hstep
  cases hstep with
  | answerValue hcounted =>
      refine ⟨hrepriced.alphabet, ?_, ?_⟩
      · intro hspared
        have hlater := hrepriced.evaluate_of_spared hcounted hspared
        simp only [run, answerValue, hlater]
      · intro word hmem hword
        have hlater := hrepriced.evaluate_of_mem hmem hword
        constructor
        · simp only [run, answerValue, hlater, Outcome.refused.injEq, Fault.malformed.injEq,
            exists_eq']
        · exact hrepriced.literal_of_mem hcounted hmem hword

theorem value_stays_among_prices :
    let taught := ({} : Interpreter).after [.execute ["glob", "is", "V"]]
    let query := ["how", "much", "is", "X", "glob", "?"]
    let facts := [["glob", "Silver", "is", "34", "Credits"], ["XI", "C", "is", "7", "Credits"],
      ["tegj", "Gold", "is", "9", "Credits"]]
    (taught.execute query).1 = .replied (.answer "X glob is 15") ∧
      taught.stored (facts.map .execute) = ["Silver", "C"] ∧
      ((taught.after (facts.map .execute)).execute query).1 = .replied (.answer "X glob is 15") := by
  intro taught query facts
  have hanswered : (taught.execute query).1 = .replied (.answer "X glob is 15") := by decide
  have hstored : taught.stored (facts.map .execute) = ["Silver", "C"] := by decide
  have hfacts : ∀ tokens ∈ facts, ∃ amount material credits,
      Statement.ofTokens tokens = .ok (.priceFact amount material credits) := by
    simp only [facts, List.forall_mem_cons]
    exact ⟨⟨["glob"], "Silver", 34, rfl⟩, ⟨["XI"], "C", 7, rfl⟩, ⟨["tegj"], "Gold", 9, rfl⟩, by simp⟩
  obtain ⟨_, hlater, _⟩ := values_are_lost_only_to_prices taught
    (rfl : Statement.ofTokens query = .ok (.valueQuery ["X", "glob"])) hanswered hfacts
  rw [hstored] at hlater
  exact ⟨hanswered, hstored, hlater (by decide)⟩

/-- `X is 5 Credits` makes a material of `X`, which then no longer counts ten. -/
theorem priced_letter_has_no_value :
    let query := ["how", "much", "is", "X", "?"]
    let told := (({} : Interpreter).execute ["X", "is", "5", "Credits"]).2
    (({} : Interpreter).execute query).1 = .replied (.answer "X is 10") ∧
      (({} : Interpreter).execute ["X", "is", "5", "Credits"]).1 =
        .replied (.learned "Priced X at 5 Credits per unit") ∧
      (told.execute query).1 = .refused (.malformed ["X"]) := by
  decide

end Interpreter
end RomanTrade
