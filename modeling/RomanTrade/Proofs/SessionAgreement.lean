import RomanTrade.Proofs.InterpreterRun

/-!
# Sessions that agree on a word

A call stores something for one word at most.  What a session says about an amount and a material
depends on its entries for their words only, so it stays the same while calls store other words.
-/

namespace RomanTrade

namespace Session

/-- Two sessions hold the same entries for a word. -/
structure AgreeOn (word : String) (early late : Session) : Prop where
  symbol : late.alphabet.get? word = early.alphabet.get? word
  price : late.prices.get? word = early.prices.get? word

theorem AgreeOn.refl (word : String) (session : Session) : AgreeOn word session session :=
  ⟨rfl, rfl⟩

theorem AgreeOn.trans {word : String} {early middle late : Session}
    (hearly : AgreeOn word early middle) (hlate : AgreeOn word middle late) :
    AgreeOn word early late :=
  ⟨hlate.symbol.trans hearly.symbol, hlate.price.trans hearly.price⟩

theorem AgreeOn.symm {word : String} {early late : Session} (hagree : AgreeOn word early late) :
    AgreeOn word late early :=
  ⟨hagree.symbol.symm, hagree.price.symm⟩

theorem agreeOn_withSymbol {word : String} (session : Session) {definition : Definition}
    (hword : definition.token ≠ word) : AgreeOn word session (session.withSymbol definition) := by
  constructor
  · rw [get?_alphabet_withSymbol, if_neg hword.symm]
  · rfl

theorem agreeOn_withPrice {word : String} (session : Session) {material : String} (price : Price)
    (hword : material ≠ word) : AgreeOn word session (session.withPrice material price) := by
  constructor
  · rfl
  · rw [get?_prices_withPrice, if_neg hword.symm]

variable {early late : Session} {amount : List String}

theorem resolve_of_agree (hagree : ∀ word ∈ amount, AgreeOn word early late) :
    late.alphabet.resolve amount = early.alphabet.resolve amount := by
  induction amount with
  | nil => rfl
  | cons word rest ih =>
      have hrest := ih fun other hother => hagree other (List.mem_cons_of_mem word hother)
      have hsymbol := (hagree word List.mem_cons_self).symbol
      simp only [Alphabet.resolve, Alphabet.reading?, hsymbol, hrest]

theorem contains_price_of_agree {word : String} (hagree : AgreeOn word early late) :
    late.prices.contains word = early.prices.contains word := by
  rw [Lexicon.contains, Lexicon.contains, hagree.price]

theorem evaluate_of_agree (hagree : ∀ word ∈ amount, AgreeOn word early late) :
    late.evaluate amount = early.evaluate amount := by
  have hpriced : amount.any late.prices.contains = amount.any early.prices.contains := by
    rw [Bool.eq_iff_iff, List.any_eq_true, List.any_eq_true]
    refine exists_congr fun word => and_congr_right fun hword => ?_
    rw [contains_price_of_agree (hagree word hword)]
  simp only [evaluate, rejectMaterials, hpriced, Alphabet.evaluate, resolve_of_agree hagree]

theorem quantity_of_agree (hagree : ∀ word ∈ amount, AgreeOn word early late) :
    late.quantity amount = early.quantity amount := by
  unfold quantity
  rw [evaluate_of_agree hagree]

theorem isMaterialName_of_agree {material : String} (hagree : AgreeOn material early late) :
    late.isMaterialName material = early.isMaterialName material := by
  simp only [isMaterialName, Lexicon.contains, hagree.symbol]

theorem checkMaterial_of_agree {material : String} (hagree : AgreeOn material early late) :
    late.checkMaterial material = early.checkMaterial material := by
  unfold checkMaterial
  rw [isMaterialName_of_agree hagree]

theorem unitPrice_of_agree {material : String} (hagree : AgreeOn material early late) :
    late.unitPrice material = early.unitPrice material := by
  unfold unitPrice
  rw [checkMaterial_of_agree hagree, hagree.price]

end Session

/-- The word that a statement is about when it is learned. -/
def Statement.subject? : Statement → Option String
  | .definition d => some d.token
  | .priceFact _ material _ => some material
  | .valueQuery _ | .priceQuery _ _ => none

namespace Interpreter

/-- The word that a call stores a symbol or a price for. -/
def stored? (interpreter : Interpreter) (call : Call) : Option String :=
  match (interpreter.perform call).1 with
  | .replied (.learned _) => call.statement?.bind Statement.subject?
  | _ => none

def stored (interpreter : Interpreter) (calls : List Call) : List String :=
  interpreter.noted stored? calls

theorem Step.agreeOn {before after : Interpreter} {statement : Statement} {outcome : Outcome}
    (hstep : Step before statement outcome after) {word : String}
    (hword : ∀ note, outcome = .replied (.learned note) → statement.subject? ≠ some word) :
    Session.AgreeOn word before.session after.session := by
  cases hstep with
  | refuse | wait | answerValue | answerPrice | collapse => exact .refl word before.session
  | learnSymbol =>
      refine before.session.agreeOn_withSymbol ?_
      simpa [Statement.subject?] using hword _ rfl
  | learnPrice =>
      refine before.session.agreeOn_withPrice _ ?_
      simpa [Statement.subject?] using hword _ rfl

theorem perform_agreeOn (interpreter : Interpreter) {call : Call} {word : String}
    (hword : interpreter.stored? call ≠ some word) :
    Session.AgreeOn word interpreter.session (interpreter.perform call).2.session := by
  rcases interpreter.perform_cases call with hsame | ⟨statement, hmade, hstep⟩
  · rw [hsame]
    exact .refl word interpreter.session
  · refine hstep.agreeOn ?_
    intro note hlearned
    simpa [stored?, hlearned, hmade] using hword

/-- A run leaves the entries of all words alone that it stores nothing for. -/
theorem after_agreeOn (interpreter : Interpreter) {calls : List Call} {word : String}
    (hword : word ∉ interpreter.stored calls) :
    Session.AgreeOn word interpreter.session (interpreter.after calls).session := by
  have hothers : ∀ stored ∈ interpreter.noted stored? calls, stored ≠ word := by
    rintro stored hstored rfl
    exact hword hstored
  refine after_preserves_of_noted
    (fun current => Session.AgreeOn word interpreter.session current.session) ?_
    (.refl word interpreter.session) hothers
  intro before call hcall hagree
  exact hagree.trans (before.perform_agreeOn fun hstored => hcall word hstored rfl)

end Interpreter
end RomanTrade
