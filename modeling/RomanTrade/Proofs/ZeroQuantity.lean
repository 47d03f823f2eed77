import RomanTrade.Proofs.Quantity

/-!
# Quantities of zero

A total that is a multiple of `2 ^ 32` becomes the quantity zero, among which no Credits can be
shared.  Such a numeral has more than four million symbols, and nothing else makes a statement
collapse.
-/

namespace RomanTrade

namespace Session

theorem quantity_eq_zero_iff {session : Session} {amount : List String} :
    session.quantity amount = .ok (.resolved 0) ↔
      (∀ word ∈ amount, session.prices.contains word = false) ∧
        ∃ numeral, session.alphabet.resolve amount = .resolved numeral ∧ numeral.IsValid ∧
          (2 ^ 32 : Int) ∣ numeral.total := by
  rw [quantity_eq_resolved_iff]
  simp [eq_comm (a := 0), Numeral.wordOfTotal_eq_zero_iff]

end Session

namespace Interpreter

variable (interpreter : Interpreter)

theorem learnPrice_eq_zeroQuantity_iff {amount : List String} {material : String} {credits : Nat} :
    (interpreter.learnPrice amount material credits).1 = .zeroQuantity ↔
      interpreter.session.isMaterialName material = true ∧
        interpreter.session.quantity amount = .ok (.resolved 0) := by
  constructor
  · intro hzero
    have hstep := interpreter.learnPrice_step amount material credits
    rw [hzero] at hstep
    generalize (interpreter.learnPrice amount material credits).2 = next at hstep
    cases hstep with
    | collapse hcounted =>
      refine ⟨?_, hcounted⟩
      unfold learnPrice at hzero
      split at hzero
      next => contradiction
      next hcheck => exact Session.isMaterialName_of_checkMaterial hcheck
  · rintro ⟨hnamed, hcounted⟩
    have hcheck := Session.checkMaterial_of_named hnamed
    have hshared : Price.ofRatio? credits (0 : Nat) = none := rfl
    simp only [learnPrice, hcheck, hcounted, hshared]

theorem execute_eq_zeroQuantity_iff {tokens : List String} :
    (interpreter.execute tokens).1 = .zeroQuantity ↔
      ∃ amount material credits,
        Statement.ofTokens tokens = .ok (.priceFact amount material credits) ∧
        interpreter.session.isMaterialName material = true ∧
        interpreter.session.quantity amount = .ok (.resolved 0) := by
  unfold execute
  constructor
  · intro hzero
    split at hzero
    next => contradiction
    next statement hread =>
      have hstep := interpreter.run_step statement
      rw [hzero] at hstep
      cases statement with
      | priceFact amount material credits =>
          have hcollapses := interpreter.learnPrice_eq_zeroQuantity_iff.mp hzero
          exact ⟨amount, material, credits, hread, hcollapses⟩
      | definition | valueQuery | priceQuery => cases hstep
  · rintro ⟨amount, material, credits, hread, hzero⟩
    rw [hread]
    exact interpreter.learnPrice_eq_zeroQuantity_iff.mpr hzero

/-- A statement collapses exactly when it is a price fact whose amount is a valid numeral with a
multiple of `2 ^ 32` for its total.  The numeral then has more than four million symbols. -/
theorem execute_collapses_iff (tokens : List String) :
    (interpreter.execute tokens).1 = .zeroQuantity ↔
      ∃ amount material credits numeral,
        Statement.ofTokens tokens = .ok (.priceFact amount material credits) ∧
        interpreter.session.isMaterialName material = true ∧
        (∀ word ∈ amount, interpreter.session.prices.contains word = false) ∧
        interpreter.session.alphabet.resolve amount = .resolved numeral ∧
        numeral.IsValid ∧ (2 ^ 32 : Int) ∣ numeral.total ∧ 4294967 < numeral.length := by
  rw [execute_eq_zeroQuantity_iff]
  simp only [Session.quantity_eq_zero_iff]
  constructor
  · rintro ⟨amount, material, credits, hread, hnamed, hunpriced, numeral, hresolve, hvalid, hwraps⟩
    refine ⟨amount, material, credits, numeral, hread, hnamed, hunpriced, hresolve, hvalid,
      hwraps, ?_⟩
    have hpos := (Numeral.isValid_iff_regular.mp hvalid).total_pos
    have hbound := numeral.total_le
    have hlarge := Int.le_of_dvd hpos hwraps
    omega
  · rintro ⟨amount, material, credits, numeral, hread, hnamed, hunpriced, hresolve, hvalid,
      hwraps, _⟩
    exact ⟨amount, material, credits, hread, hnamed, hunpriced, numeral, hresolve, hvalid, hwraps⟩

end Interpreter

namespace Keyword

theorem foreign_of_accepts {keyword : Keyword} {token : String}
    (haccepts : keyword.accepts token = true) :
    ∃ c ∈ token.toList, ∀ symbol : Symbol, symbol.letter ≠ c := by
  by_cases hhow : keyword = .how
  · subst hhow
    have hlower : token.toList.map Char.toLower = Keyword.how.text.toList.map Char.toLower := by
      simpa [accepts, Text.sameIgnoringCase] using haccepts
    have hmem : 'h' ∈ token.toList.map Char.toLower := by
      rw [hlower]
      decide
    obtain ⟨c, hc, hcase⟩ := List.mem_map.mp hmem
    refine ⟨c, hc, ?_⟩
    rintro symbol rfl
    revert hcase
    cases symbol <;> decide
  · rw [(accepts_iff hhow).mp haccepts]
    cases keyword with
    | how => contradiction
    | is => exact ⟨'i', by decide, fun symbol => by cases symbol <;> decide⟩
    | much | many => exact ⟨'m', by decide, fun symbol => by cases symbol <;> decide⟩
    | credits => exact ⟨'r', by decide, fun symbol => by cases symbol <;> decide⟩
    | question => exact ⟨'?', by decide, fun symbol => by cases symbol <;> decide⟩

theorem isReserved_numeral_text (numeral : Numeral) : isReserved numeral.text = false := by
  rw [Bool.eq_false_iff]
  intro hreserved
  obtain ⟨keyword, _, haccepts⟩ := List.any_eq_true.mp hreserved
  obtain ⟨c, hc, hforeign⟩ := foreign_of_accepts haccepts
  rw [Numeral.toList_text, List.mem_map] at hc
  obtain ⟨symbol, _, hletter⟩ := hc
  exact hforeign symbol hletter

end Keyword

theorem Statement.ofTokens_literal_fact (numeral : Numeral) (material : String) {digits : String}
    {credits : Nat} (hnumber : Statement.credits? digits = some credits) :
    Statement.ofTokens [numeral.text, material, "is", digits, "Credits"] =
      .ok (.priceFact [numeral.text] material credits) := by
  have hplain : ∀ word ∈ [numeral.text], Keyword.isReserved word = false := by
    intro word hword
    rw [List.mem_singleton.mp hword]
    exact Keyword.isReserved_numeral_text numeral
  exact Statement.ofTokens_of_layout (.priceFact material hplain hnumber)

namespace Interpreter

theorem fresh_collapses {numeral : Numeral} (hvalid : numeral.IsValid)
    (hwraps : (2 ^ 32 : Int) ∣ numeral.total) :
    (({} : Interpreter).execute [numeral.text, "Gold", "is", "4294967296", "Credits"]).1 =
      .zeroQuantity := by
  have hne := (Numeral.isValid_iff_regular.mp hvalid).nonempty
  have hresolve : Alphabet.resolve {} [numeral.text] = .resolved numeral :=
    Alphabet.resolve_literal rfl hne
  have hcounted : Session.quantity {} [numeral.text] = .ok (.resolved 0) :=
    Session.quantity_eq_zero_iff.mpr ⟨fun _ _ => rfl, numeral, hresolve, hvalid, hwraps⟩
  have hread := Statement.ofTokens_literal_fact numeral "Gold"
    (by decide : Statement.credits? "4294967296" = some 4294967296)
  rw [execute_eq_zeroQuantity_iff]
  exact ⟨[numeral.text], "Gold", 4294967296, hread, by decide, hcounted⟩

/-- `M`, then `CM` more than four million times, then `DCXCVI`. -/
def wrapping : Numeral :=
  Numeral.zigzag .M .C 4772184 [.D, .C, .X, .C, .V, .I]

theorem wrapping_amount_collapses :
    wrapping.IsValid ∧ wrapping.total = 2 ^ 32 ∧
      (({} : Interpreter).execute [wrapping.text, "Gold", "is", "4294967296", "Credits"]).1 =
        .zeroQuantity := by
  have hhead : ∀ next ∈ ([.D, .C, .X, .C, .V, .I] : Numeral).head?,
      next.value < Symbol.M.value := by decide
  have hbase : Numeral.IsValid [.M, .D, .C, .X, .C, .V, .I] := by decide
  have hvalid : wrapping.IsValid := by
    rw [Numeral.isValid_iff_regular] at hbase ⊢
    exact Numeral.regular_zigzag rfl rfl hhead hbase 4772184
  have htotal : wrapping.total = 2 ^ 32 := by
    have htail : Numeral.total [.D, .C, .X, .C, .V, .I] = 696 := by decide
    rw [wrapping, Numeral.total_zigzag rfl hhead, htail]
    simp only [Symbol.value]
    norm_num
  exact ⟨hvalid, htotal, fresh_collapses hvalid ⟨1, by rw [htotal]; rfl⟩⟩

end Interpreter
end RomanTrade
