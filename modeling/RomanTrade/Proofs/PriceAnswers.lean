import RomanTrade.Proofs.PriceDisplay
import RomanTrade.Proofs.Repetition
import RomanTrade.Proofs.SessionInvariant
import RomanTrade.Proofs.ZeroQuantity

/-!
# Answers to price queries

The price of an amount is the unit price times the number that the value query for the amount
answers.  The product is refused when its reduced numerator does not fit, and for no other reason.
Its decimal is exact as long as the numerator over a power of ten fits in 128 bits.
-/

namespace RomanTrade

theorem Session.Consistent.isMaterialName_of_priced {session : Session}
    (hgood : session.Consistent) {material : String} {price : Price}
    (hprice : session.prices.get? material = some price) :
    session.isMaterialName material = true := by
  have hpriced : session.prices.contains material = true := by
    rw [Lexicon.contains, hprice]
    rfl
  simp [Session.isMaterialName, hgood.capitalized material hpriced,
    hgood.plainMaterial material hpriced, hgood.tokenless_of_material hpriced]

theorem Text.eq_of_toString_eq {m n : Nat} (hdigits : toString m = toString n) : m = n := by
  have hread := congrArg (fun written : String => Nat.ofDigitChars 10 written.toList 0) hdigits
  have hvalue : ∀ k : Nat, Nat.ofDigitChars 10 (toString k).toList 0 = k := by
    intro k
    change Nat.ofDigitChars 10 k.repr.toList 0 = k
    rw [Nat.toList_repr, Nat.ofDigitChars_toDigits (by decide) (by decide)]
  rwa [hvalue, hvalue] at hread

namespace Interpreter

/-- The number of units of an amount: one for no amount at all, else what the value query for the
amount answers. -/
inductive Counts (interpreter : Interpreter) : List String → Nat → Prop where
  | single : Counts interpreter [] 1
  | asked {question amount : List String} {units : Nat}
      (read : Statement.ofTokens question = .ok (.valueQuery amount))
      (answered : (interpreter.execute question).1 =
        .replied (.answer s!"{Text.joinWords amount} is {units}")) :
      Counts interpreter amount units

variable {interpreter : Interpreter} {session : Session} {amount : List String}
  {material : String} {price : Price} {units : Nat}

theorem evaluate_of_answerValue
    (hanswered : answerValue session amount =
      .replied (.answer s!"{Text.joinWords amount} is {units}")) :
    session.evaluate amount = .ok (.resolved units) := by
  unfold answerValue at hanswered
  split at hanswered
  next => contradiction
  next => cases hanswered
  next value hvalue =>
    have htexts := Reply.answer.inj (Outcome.replied.inj hanswered)
    have hdigits : toString value = toString units := (String.append_right_inj _).mp htexts
    rw [hvalue, Text.eq_of_toString_eq hdigits]

theorem Counts.quantity (hcounts : interpreter.Counts amount units) :
    interpreter.session.quantity amount = .ok (.resolved units) := by
  cases hcounts with
  | single => rfl
  | asked hread hanswered =>
      rw [interpreter.execute_eq_run hread] at hanswered
      cases Statement.layout_of_ofTokens hread with
      | valueQuery _ hne _ =>
          have hvalue := evaluate_of_answerValue hanswered
          rwa [Session.quantity, if_neg (by simpa using hne)]

theorem answerPrice_eq (hknown : session.unitPrice material = .ok price)
    (hcounted : session.quantity amount = .ok (.resolved units)) :
    answerPrice session amount material =
      if Price.fitsWord (price.credits * units).num then
        .replied (.answer (priceAnswer amount material ⟨price.credits * units⟩))
      else .refused (.priceOverflow material) := by
  simp only [answerPrice, hknown, hcounted, Price.times?_eq]
  cases Price.fitsWord (price.credits * units).num <;> rfl

/-- The answer to a price query is the unit price times the number of units, refused exactly when
the reduced numerator of the product does not fit.  The text of the product is exact whenever its
decimal can be scaled within 128 bits. -/
theorem price_queries_exact_or_refused (policy : UnitPricePolicy) (calls : List Call)
    {tokens : List String}
    (hread : Statement.ofTokens tokens = .ok (.priceQuery amount material))
    (hprice : (({ policy } : Interpreter).after calls).session.prices.get? material = some price)
    (hcounts : (({ policy } : Interpreter).after calls).Counts amount units) :
    let asked := ({ policy } : Interpreter).after calls
    let total : Price := ⟨price.credits * units⟩
    (Price.fitsWord total.credits.num = false →
      asked.execute tokens = (.refused (.priceOverflow material), asked)) ∧
    (Price.fitsWord total.credits.num = true →
      ∃ shown,
        asked.execute tokens =
          (.replied (.answer s!"{Text.joinWords (amount ++ [material])} is {shown} Credits"),
            asked) ∧
        (total.ScalingFits → Price.Displays total.credits shown)) := by
  intro asked total
  have hgood : asked.session.Consistent := consistent_after policy calls
  have hknown : asked.session.unitPrice material = .ok price :=
    Session.unitPrice_of_named (hgood.isMaterialName_of_priced hprice) hprice
  have hanswer := answerPrice_eq hknown hcounts.quantity
  have hexecute : asked.execute tokens = (answerPrice asked.session amount material, asked) :=
    asked.execute_eq_run hread
  rw [hexecute, hanswer]
  constructor
  · intro hlarge
    rw [if_neg (by simpa using hlarge)]
  · intro hfits
    rw [if_pos hfits]
    exact ⟨total.text, rfl, Price.displays_text⟩

theorem half_credits_are_shown :
    let taught := ({} : Interpreter).after
      [.execute ["glob", "is", "I"], .execute ["glob", "glob", "Silver", "is", "35", "Credits"]]
    let goods := Text.joinWords ["glob", "Silver"]
    ∃ shown,
      taught.execute ["how", "many", "Credits", "is", "glob", "Silver", "?"] =
        (.replied (.answer s!"{goods} is {shown} Credits"), taught) ∧
      Price.Displays (mkRat 35 2) shown := by
  intro taught goods
  have hread : Statement.ofTokens ["how", "many", "Credits", "is", "glob", "Silver", "?"] =
      .ok (.priceQuery ["glob"] "Silver") := by decide
  have hprice : taught.session.prices.get? "Silver" = some ⟨mkRat 35 2⟩ := by decide
  have hquestion : Statement.ofTokens ["how", "much", "is", "glob", "?"] =
      .ok (.valueQuery ["glob"]) := by decide
  have hcounts : taught.Counts ["glob"] 1 := .asked hquestion (by decide)
  have htotal : mkRat 35 2 * (1 : Nat) = mkRat 35 2 := by simp
  obtain ⟨_, hanswered⟩ := price_queries_exact_or_refused .allowFractional _ hread hprice hcounts
  rw [htotal] at hanswered
  obtain ⟨shown, hshown, hdisplays⟩ := hanswered (by decide)
  refine ⟨shown, hshown, hdisplays ?_⟩
  apply Price.scalingFits_of_few_places (by decide)
  decide

/-- `M`, then `CM` more than a thousand times, then `DCCCLXXVI`: two to the power of twenty. -/
def crowd : Numeral :=
  Numeral.zigzag .M .C 1163 [.D, .C, .C, .C, .L, .X, .X, .V, .I]

theorem isValid_crowd : crowd.IsValid := by
  have hhead : ∀ next ∈ ([.D, .C, .C, .C, .L, .X, .X, .V, .I] : Numeral).head?,
      next.value < Symbol.M.value := by decide
  have hbase : Numeral.IsValid [.M, .D, .C, .C, .C, .L, .X, .X, .V, .I] := by decide
  rw [Numeral.isValid_iff_regular] at hbase ⊢
  exact Numeral.regular_zigzag rfl rfl hhead hbase 1163

theorem total_crowd : crowd.total = 2 ^ 20 := by
  have hhead : ∀ next ∈ ([.D, .C, .C, .C, .L, .X, .X, .V, .I] : Numeral).head?,
      next.value < Symbol.M.value := by decide
  have htail : Numeral.total [.D, .C, .C, .C, .L, .X, .X, .V, .I] = 876 := by decide
  rw [crowd, Numeral.total_zigzag rfl hhead, htail]
  simp only [Symbol.value]
  norm_num

theorem execute_crowd_fact :
    ({} : Interpreter).execute [crowd.text, "Gold", "is", "1500000000000000001", "Credits"] =
      (.replied (.learned "Priced Gold at 1430511474609.37500095367431640625 Credits per unit"),
        { session := ({} : Session).withPrice "Gold" ⟨mkRat 1500000000000000001 (2 ^ 20)⟩ }) := by
  have hread := Statement.ofTokens_literal_fact crowd "Gold"
    (by decide : Statement.credits? "1500000000000000001" = some 1500000000000000001)
  have hne := (Numeral.isValid_iff_regular.mp isValid_crowd).nonempty
  have hresolve : Alphabet.resolve {} [crowd.text] = .resolved crowd :=
    Alphabet.resolve_literal rfl hne
  have hword : Numeral.wordOfTotal crowd.total = 2 ^ 20 := by
    rw [total_crowd]
    rfl
  have hcounted : Session.quantity {} [crowd.text] = .ok (.resolved (2 ^ 20)) :=
    Session.quantity_eq_resolved_iff.mpr
      (.inr ⟨fun _ _ => rfl, crowd, hresolve, isValid_crowd, hword.symm⟩)
  have hnamed : ({} : Session).isMaterialName "Gold" = true := by decide
  have hshared : Price.ofRatio? (1500000000000000001 : Nat) (2 ^ 20 : Nat) =
      some ⟨mkRat 1500000000000000001 (2 ^ 20)⟩ := by decide
  have hlearned := ({} : Interpreter).learnPrice_of_counted hnamed hcounted hshared
    (fun hpolicy => nomatch hpolicy)
  rw [execute_eq_run _ hread, run, hlearned]
  decide +kernel

/-- A product with twenty decimal places is not scaled within 128 bits: the answer has wrapped. -/
theorem wrapped_decimal_is_answered :
    let told := ({} : Interpreter).after
      [.execute [crowd.text, "Gold", "is", "1500000000000000001", "Credits"]]
    told.session.prices.get? "Gold" = some ⟨mkRat 1500000000000000001 (2 ^ 20)⟩ ∧
      told.Counts ["III"] 3 ∧
      Price.fitsWord (mkRat 4500000000000000003 (2 ^ 20)).num = true ∧
      mkRat 1500000000000000001 (2 ^ 20) * (3 : Nat) = mkRat 4500000000000000003 (2 ^ 20) ∧
      Price.Displays (mkRat 4500000000000000003 (2 ^ 20)) "4291534423828.12500286102294921875" ∧
      (told.execute ["how", "many", "Credits", "is", "III", "Gold", "?"]).1 =
        .replied (.answer "III Gold is 1046348887243.85773502946274345619 Credits") := by
  intro told
  have hfirst : ∀ tokens, ({} : Interpreter).after [.execute tokens] =
      (({} : Interpreter).execute tokens).2 := fun _ => rfl
  have htold : told =
      { session := ({} : Session).withPrice "Gold" ⟨mkRat 1500000000000000001 (2 ^ 20)⟩ } :=
    (hfirst _).trans (congrArg Prod.snd execute_crowd_fact)
  have hquestion : Statement.ofTokens ["how", "much", "is", "III", "?"] =
      .ok (.valueQuery ["III"]) := by decide
  have hplaces : Price.fewestPlaces? (mkRat 4500000000000000003 (2 ^ 20)).den = some 20 := by
    decide +kernel
  have hsign : "" = if (mkRat 4500000000000000003 (2 ^ 20)).num < 0 then "-" else "" := by
    decide +kernel
  have hexact : |mkRat 4500000000000000003 (2 ^ 20)| =
      (4291534423828 : Nat) + (12500286102294921875 : Nat) / 10 ^ 20 := by norm_num
  rw [htold]
  refine ⟨by decide +kernel, ?_, by decide +kernel, by decide +kernel, ?_, by decide +kernel⟩
  · exact .asked hquestion (by decide)
  · exact .decimal (by decide +kernel) hplaces hsign (by decide) hexact

end Interpreter
end RomanTrade
