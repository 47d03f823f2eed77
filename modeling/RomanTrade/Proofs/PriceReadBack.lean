import RomanTrade.Proofs.SessionAgreement
import RomanTrade.Proofs.UnitPrice

/-!
# Reading prices back

A price query takes a learned price fact back to the number of Credits that was stated.  The
question and the fact count the same amount, since calls that store other words do not change it,
and multiplying by the quantity undoes the division by it.
-/

namespace RomanTrade

namespace Session

theorem unitPrice_of_named {session : Session} {material : String} {price : Price}
    (hnamed : session.isMaterialName material = true)
    (hprice : session.prices.get? material = some price) :
    session.unitPrice material = .ok price := by
  simp [unitPrice, checkMaterial_of_named hnamed, hprice]

/-- An amount that names a priced material is echoed. -/
theorem quantity_of_priced {session : Session} {amount : List String} {word : String}
    (hword : word ∈ amount) (hpriced : session.prices.contains word = true) :
    session.quantity amount = .error (.malformed amount) := by
  have hne : amount.isEmpty = false := by
    rw [List.isEmpty_eq_false_iff_exists_mem]
    exact ⟨word, hword⟩
  unfold quantity
  rw [hne]
  exact evaluate_of_priced hword hpriced

end Session

namespace Statement

theorem le_of_credits? {digits : String} {credits : Nat}
    (hnumber : credits? digits = some credits) : credits ≤ largestCredits := by
  unfold credits? at hnumber
  simp only at hnumber
  split at hnumber
  next => contradiction
  next =>
    split at hnumber
    next hle =>
      cases hnumber
      exact hle
    next => contradiction

theorem fitsWord_of_layout {tokens amount : List String} {material : String} {credits : Nat}
    (hlayout : Layout tokens (.priceFact amount material credits)) :
    Price.fitsWord credits = true := by
  cases hlayout with
  | priceFact _ _ hnumber =>
      have hle := le_of_credits? hnumber
      have hlargest : largestCredits = 0x7FFFFFFFFFFFFFFF := rfl
      simp only [Price.fitsWord, Bool.and_eq_true, decide_eq_true_eq]
      omega

end Statement

namespace Interpreter

theorem execute_priceQuery (interpreter : Interpreter) {amount : List String} (material : String)
    (hplain : ∀ word ∈ amount, Keyword.isReserved word = false) :
    interpreter.execute (["how", "many", "Credits", "is"] ++ amount ++ [material, "?"]) =
      (answerPrice interpreter.session amount material, interpreter) := by
  have hopening : Keyword.how.accepts "how" = true := Keyword.accepts_text .how
  have hread : Statement.ofTokens (["how", "many", "Credits", "is"] ++ amount ++ [material, "?"]) =
      .ok (.priceQuery amount material) :=
    Statement.ofTokens_of_layout (.priceQuery hopening material hplain)
  unfold execute
  rw [hread]
  rfl

theorem answerPrice_of_stated {session : Session} {amount : List String} {material : String}
    {price : Price} {credits units : Nat} (hnamed : session.isMaterialName material = true)
    (hprice : session.prices.get? material = some price)
    (hshared : Price.ofRatio? credits units = some price)
    (hfits : Price.fitsWord credits = true)
    (hcounted : session.quantity amount = .ok (.resolved units)) :
    answerPrice session amount material =
      .replied (.answer s!"{Text.joinWords (amount ++ [material])} is {credits} Credits") := by
  have hknown := Session.unitPrice_of_named hnamed hprice
  have hproduct := Price.times?_of_ofRatio? hshared hfits
  simp only [answerPrice, hknown, hcounted, hproduct, priceAnswer, Price.text_of_whole]
  rfl

theorem answerPrice_of_priced {session : Session} {amount : List String} {material : String}
    {price : Price} (hnamed : session.isMaterialName material = true)
    (hprice : session.prices.get? material = some price) (hmem : material ∈ amount) :
    answerPrice session amount material = .refused (.malformed amount) := by
  have hknown := Session.unitPrice_of_named hnamed hprice
  have hpriced : session.prices.contains material = true := by
    rw [Lexicon.contains, hprice]
    rfl
  simp only [answerPrice, hknown, Session.quantity_of_priced hmem hpriced]

/-- What a learned price fact leaves behind. -/
structure Priced (before after : Session) (amount : List String) (material : String)
    (credits units : Nat) (price : Price) : Prop where
  named : before.isMaterialName material = true
  counted : before.quantity amount = .ok (.resolved units)
  shared : Price.ofRatio? credits units = some price
  stored : after = before.withPrice material price

theorem exists_priced_of_learned (interpreter : Interpreter) {tokens amount : List String}
    {material note : String} {credits : Nat}
    (hread : Statement.ofTokens tokens = .ok (.priceFact amount material credits))
    (hlearned : (interpreter.execute tokens).1 = .replied (.learned note)) :
    ∃ units price, Priced interpreter.session (interpreter.execute tokens).2.session amount material
      credits units price := by
  have hrun : interpreter.execute tokens =
      interpreter.run (.priceFact amount material credits) := by
    simp only [execute, hread]
  have hstep := interpreter.run_step (.priceFact amount material credits)
  rw [← hrun, hlearned] at hstep
  generalize (interpreter.execute tokens).2 = told at hstep
  cases hstep with
  | @learnPrice _ _ _ units price hnamed hcounted hshared _ =>
      exact ⟨units, price, hnamed, hcounted, hshared, rfl⟩

/-- As long as no call stores anything for the material of a learned price fact or for a token of
its amount, the price of the same amount is answered with exactly the Credits that were stated. -/
theorem stated_prices_read_back (interpreter : Interpreter) {tokens amount : List String}
    {material note : String} {credits : Nat}
    (hread : Statement.ofTokens tokens = .ok (.priceFact amount material credits))
    (hlearned : (interpreter.execute tokens).1 = .replied (.learned note)) (later : List Call)
    (hkept : ∀ word ∈ material :: amount, word ∉ (interpreter.execute tokens).2.stored later) :
    (((interpreter.execute tokens).2.after later).execute
        (["how", "many", "Credits", "is"] ++ amount ++ [material, "?"])).1 =
      if material ∈ amount then .refused (.malformed amount)
      else .replied (.answer s!"{Text.joinWords (amount ++ [material])} is {credits} Credits") := by
  have hlayout := Statement.layout_of_ofTokens hread
  have hplain : ∀ word ∈ amount, Keyword.isReserved word = false := hlayout.amount_plain
  obtain ⟨units, price, hpriced⟩ := interpreter.exists_priced_of_learned hread hlearned
  generalize (interpreter.execute tokens).2 = told at hpriced hkept
  have hkeeps : ∀ word ∈ material :: amount,
      Session.AgreeOn word told.session (told.after later).session :=
    fun word hword => told.after_agreeOn (hkept word hword)
  have hmaterial := hkeeps material List.mem_cons_self
  have hprice : (told.after later).session.prices.get? material = some price := by
    rw [hmaterial.price, hpriced.stored, Session.get?_prices_withPrice, if_pos rfl]
  have hnamed : (told.after later).session.isMaterialName material = true := by
    rw [Session.isMaterialName_of_agree hmaterial, hpriced.stored]
    exact hpriced.named
  rw [execute_priceQuery _ material hplain]
  split
  next hmem => exact answerPrice_of_priced hnamed hprice hmem
  next hmem =>
    -- The fact priced the material only, so the amount still counts what it did before the fact.
    have hamount : ∀ word ∈ amount,
        Session.AgreeOn word interpreter.session (told.after later).session := by
      intro word hword
      have hne : material ≠ word := fun hsame => hmem (hsame ▸ hword)
      have hfact := interpreter.session.agreeOn_withPrice price hne
      rw [← hpriced.stored] at hfact
      exact hfact.trans (hkeeps word (List.mem_cons_of_mem material hword))
    have hcounted : (told.after later).session.quantity amount = .ok (.resolved units) := by
      rw [Session.quantity_of_agree hamount]
      exact hpriced.counted
    have hfits := Statement.fitsWord_of_layout hlayout
    exact answerPrice_of_stated hnamed hprice hpriced.shared hfits hcounted

theorem silver_price_reads_back :
    let taught := ({} : Interpreter).after [.execute ["glob", "is", "I"]]
    let told := (taught.execute ["glob", "glob", "Silver", "is", "35", "Credits"]).2
    let later := [Call.execute ["prok", "is", "V"],
      .execute ["glob", "prok", "Gold", "is", "57800", "Credits"],
      .execute ["how", "much", "is", "pish", "?"], .supply "pish" ["pish", "is", "X"]]
    ((told.after later).execute ["how", "many", "Credits", "is", "glob", "glob", "Silver", "?"]).1 =
      .replied (.answer "glob glob Silver is 35 Credits") :=
  have hlearned : ((({} : Interpreter).after [.execute ["glob", "is", "I"]]).execute
      ["glob", "glob", "Silver", "is", "35", "Credits"]).1 =
        .replied (.learned "Priced Silver at 17.5 Credits per unit") := by decide +kernel
  stated_prices_read_back (({} : Interpreter).after [.execute ["glob", "is", "I"]])
    (by decide : Statement.ofTokens ["glob", "glob", "Silver", "is", "35", "Credits"] =
      .ok (.priceFact ["glob", "glob"] "Silver" 35))
    hlearned _ (by decide)

end Interpreter
end RomanTrade
