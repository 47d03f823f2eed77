import RomanTrade.Proofs.PriceReadBack

/-!
# Statements that are made twice

Storing what is stored already changes nothing, so a statement that has been accepted can be made
once more without effect.  The exception is a price fact that counts its own material as a roman
numeral: once the material has a price, it no longer stands for a number.
-/

namespace RomanTrade

namespace Lexicon

variable {α : Type}

theorem replaceEntry_eq_self {entries : List (String × α)} {word : String} {meaning : α}
    (hknown : entries.lookup word = some meaning) : replaceEntry word meaning entries = entries := by
  induction entries with
  | nil => simp at hknown
  | cons entry rest ih =>
      obtain ⟨name, old⟩ := entry
      rw [lookup_cons_eq_ite] at hknown
      by_cases hname : word = name
      · rw [if_pos hname, Option.some.injEq] at hknown
        simp [replaceEntry, hname, hknown]
      · rw [if_neg hname] at hknown
        simp [replaceEntry, Ne.symm hname, ih hknown]

theorem insert_eq_self {lexicon : Lexicon α} {word : String} {meaning : α}
    (hknown : lexicon.get? word = some meaning) : lexicon.insert word meaning = lexicon := by
  obtain ⟨entries, distinct⟩ := lexicon
  simp only [insert, mk.injEq]
  exact replaceEntry_eq_self hknown

end Lexicon

namespace Session

theorem withSymbol_withSymbol (session : Session) (definition : Definition) :
    (session.withSymbol definition).withSymbol definition = session.withSymbol definition := by
  have hknown : (session.withSymbol definition).alphabet.get? definition.token =
      some definition.symbol := by
    rw [get?_alphabet_withSymbol, if_pos rfl]
  generalize session.withSymbol definition = told at hknown
  rw [withSymbol, Lexicon.insert_eq_self hknown]

theorem withPrice_withPrice (session : Session) (material : String) (price : Price) :
    (session.withPrice material price).withPrice material price =
      session.withPrice material price := by
  have hknown : (session.withPrice material price).prices.get? material = some price := by
    rw [get?_prices_withPrice, if_pos rfl]
  generalize session.withPrice material price = told at hknown
  rw [withPrice, Lexicon.insert_eq_self hknown]

theorem contains_withPrice (session : Session) (material : String) (price : Price) :
    (session.withPrice material price).prices.contains material = true :=
  (Lexicon.contains_insert _ _ _ _).mpr (.inl rfl)

end Session

namespace Interpreter

variable (interpreter : Interpreter) {amount : List String} {material : String} {credits : Nat}

theorem learnPrice_of_counted {units : Nat} {price : Price}
    (hnamed : interpreter.session.isMaterialName material = true)
    (hcounted : interpreter.session.quantity amount = .ok (.resolved units))
    (hshared : Price.ofRatio? credits units = some price)
    (hallowed : interpreter.policy = .wholeCredits → price.isWhole = true) :
    interpreter.learnPrice amount material credits =
      (.replied (.learned s!"Priced {material} at {price.text} Credits per unit"),
        { interpreter with session := interpreter.session.withPrice material price }) := by
  have hcheck := Session.checkMaterial_of_named hnamed
  have hpolicy : ¬ (interpreter.policy = .wholeCredits ∧ price.isWhole = false) := by
    rintro ⟨hwhole, hfraction⟩
    rw [hallowed hwhole] at hfraction
    contradiction
  simp only [learnPrice, hcheck, hcounted, hshared, storePrice, hpolicy, if_false,
    Session.setPrice]
  rfl

theorem learnPrice_of_priced {word : String}
    (hnamed : interpreter.session.isMaterialName material = true) (hword : word ∈ amount)
    (hpriced : interpreter.session.prices.contains word = true) :
    interpreter.learnPrice amount material credits = (.refused (.malformed amount), interpreter) := by
  have hcheck := Session.checkMaterial_of_named hnamed
  have hcounted := Session.quantity_of_priced hword hpriced
  simp only [learnPrice, hcheck, hcounted]

theorem learnSymbol_again {definition : Definition}
    (hplain : Keyword.isReserved definition.token = false)
    (hunpriced : interpreter.session.prices.contains definition.token = false) :
    let told : Interpreter :=
      { interpreter with session := interpreter.session.withSymbol definition }
    told.learnSymbol definition =
      (.replied (.learned s!"Defined {definition.token} as {definition.symbol.text}"), told) := by
  intro told
  rw [told.learnSymbol_of_free definition hplain hunpriced]
  simp only [told, Session.withSymbol_withSymbol, Session.get?_alphabet_withSymbol, if_true,
    definitionNote]

theorem learnPrice_again {units : Nat} {price : Price}
    (hnamed : interpreter.session.isMaterialName material = true)
    (hcounted : interpreter.session.quantity amount = .ok (.resolved units))
    (hshared : Price.ofRatio? credits units = some price)
    (hallowed : interpreter.policy = .wholeCredits → price.isWhole = true) :
    let told : Interpreter :=
      { interpreter with session := interpreter.session.withPrice material price }
    told.learnPrice amount material credits =
      (if material ∈ amount then .refused (.malformed amount)
        else .replied (.learned s!"Priced {material} at {price.text} Credits per unit"), told) := by
  intro told
  have hstill : told.session.isMaterialName material = true := hnamed
  split
  next hmem =>
    exact told.learnPrice_of_priced hstill hmem
      (interpreter.session.contains_withPrice material price)
  next hmem =>
    have hsame : told.session.quantity amount = .ok (.resolved units) := by
      rw [← hcounted]
      apply Session.quantity_of_agree
      intro word hword
      apply interpreter.session.agreeOn_withPrice price
      rintro rfl
      exact hmem hword
    rw [told.learnPrice_of_counted hstill hsame hshared hallowed]
    simp only [told, Session.withPrice_withPrice]

/-- A statement that has been learned or answered is learned or answered once more, with the same
answer or price note, and changes nothing.  Only a price fact about a material of its own amount is
then refused, which changes nothing either. -/
theorem accepted_statements_repeat {tokens : List String} {reply : Reply}
    (haccepted : (interpreter.execute tokens).1 = .replied reply)
    (hdone : ∀ token, reply ≠ .missing token) :
    let told := (interpreter.execute tokens).2
    (told.execute tokens).2 = told ∧
      ∃ statement, Statement.ofTokens tokens = .ok statement ∧
        match statement with
        | .definition definition =>
            (∃ note, reply = .learned note) ∧ (told.execute tokens).1 =
              .replied (.learned s!"Defined {definition.token} as {definition.symbol.text}")
        | .priceFact amount material _ =>
            (∃ note, reply = .learned note) ∧
              (material ∉ amount → (told.execute tokens).1 = .replied reply) ∧
              (material ∈ amount →
                ∃ echoed, (told.execute tokens).1 = .refused (.malformed echoed))
        | .valueQuery _ | .priceQuery _ _ =>
            (∃ text, reply = .answer text) ∧ (told.execute tokens).1 = .replied reply := by
  rcases interpreter.execute_cases tokens with ⟨fault, _, hrefused⟩ | ⟨statement, hread, hstep⟩
  · rw [hrefused] at haccepted
    contradiction
  · cases hfirst : interpreter.execute tokens with
    | mk outcome told =>
      rw [hfirst] at haccepted hstep
      obtain rfl : outcome = .replied reply := haccepted
      have hagain := told.execute_eq_run hread
      cases hstep with
      | wait => exact absurd rfl (hdone _)
      | answerValue | answerPrice =>
          exact ⟨by rw [hfirst], _, hread, ⟨_, rfl⟩, by rw [hfirst]⟩
      | learnSymbol hplain hunpriced =>
          rw [run, interpreter.learnSymbol_again hplain hunpriced] at hagain
          exact ⟨by rw [hagain], _, hread, ⟨_, rfl⟩, by rw [hagain]⟩
      | learnPrice hnamed hcounted hshared hallowed =>
          rw [run, interpreter.learnPrice_again hnamed hcounted hshared hallowed] at hagain
          refine ⟨by rw [hagain], _, hread, ⟨_, rfl⟩, ?_, ?_⟩
          · intro hapart
            rw [hagain, if_neg hapart]
          · intro hmem
            rw [hagain, if_pos hmem]
            exact ⟨_, rfl⟩

/-- A roman letter as a material, counted by another one. -/
theorem price_of_letter_repeats :
    let tokens := ["X", "C", "is", "5", "Credits"]
    let told := (({} : Interpreter).execute tokens).2
    told.execute tokens = (.replied (.learned "Priced C at 0.5 Credits per unit"), told) := by
  intro tokens told
  have hlearned : (({} : Interpreter).execute tokens).1 =
      .replied (.learned "Priced C at 0.5 Credits per unit") := by decide +kernel
  obtain ⟨hsame, statement, hread, hagain⟩ := accepted_statements_repeat {} hlearned (by simp)
  have hfact : Statement.ofTokens tokens = .ok (.priceFact ["X"] "C" 5) := rfl
  obtain rfl := Except.ok.inj (hfact.symm.trans hread)
  exact Prod.ext (hagain.2.1 (by decide)) hsame

/-- `X X is 5 Credits` is learned, but then `X` is a material and counts nothing. -/
theorem own_letter_counts_once :
    let tokens := ["X", "X", "is", "5", "Credits"]
    let told := (({} : Interpreter).execute tokens).2
    (({} : Interpreter).execute tokens).1 =
        .replied (.learned "Priced X at 0.5 Credits per unit") ∧
      told.execute tokens = (.refused (.malformed ["X"]), told) := by
  decide +kernel

end Interpreter
end RomanTrade
