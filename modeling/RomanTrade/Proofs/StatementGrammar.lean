import RomanTrade.Statement

/-!
# The grammar of statements

`Statement.Layout` lists the four layouts of an accepted line with the words that stand in them.
A line that classification accepts has the layout of the statement that it is read as, so later
arguments about accepted statements follow the layouts and never the order of the tests.
-/

namespace RomanTrade

namespace Symbol

theorem ofText?_eq_some_iff {written : String} {symbol : Symbol} :
    ofText? written = some symbol ↔ written = symbol.text := by
  constructor
  · intro h
    unfold ofText? at h
    split at h
    next c hletters =>
      have hc : c = symbol.letter := ofLetter?_eq_some_iff.mp h
      rw [hc] at hletters
      apply String.toList_inj.mp
      rw [hletters]
      cases symbol <;> rfl
    next => contradiction
  · rintro rfl
    cases symbol <;> decide

theorem text_ne_marker (symbol : Symbol) :
    symbol.text ≠ Keyword.question.text ∧ symbol.text ≠ Keyword.credits.text := by
  cases symbol <;> decide

end Symbol

namespace Keyword

/-- Only `how` has more than one spelling. -/
theorem accepts_iff {keyword : Keyword} (hkeyword : keyword ≠ .how) {token : String} :
    keyword.accepts token = true ↔ token = keyword.text := by
  cases keyword with
  | how => contradiction
  | is | much | many | credits | question => simp [accepts]

theorem isReserved_of_accepts {keyword : Keyword} {token : String}
    (h : keyword.accepts token = true) : isReserved token = true := by
  refine List.any_eq_true.mpr ⟨keyword, ?_, h⟩
  cases keyword <;> simp [all]

end Keyword

theorem Definition.ofTokens_eq_ok_iff {tokens : List String} {definition : Definition} :
    Definition.ofTokens tokens = .ok definition ↔
      tokens = [definition.token, Keyword.is.text, definition.symbol.text] := by
  obtain ⟨token, symbol⟩ := definition
  constructor
  · intro h
    unfold Definition.ofTokens at h
    split at h
    next first copula written =>
      split at h
      next hcopula =>
        split at h
        next read hread =>
          simp only [Except.ok.injEq, Definition.mk.injEq] at h
          obtain ⟨rfl, rfl⟩ := h
          rw [(Keyword.accepts_iff (by decide)).mp hcopula, Symbol.ofText?_eq_some_iff.mp hread]
        next => contradiction
      next => contradiction
    next => contradiction
  · rintro rfl
    have hread : Symbol.ofText? symbol.text = some symbol := Symbol.ofText?_eq_some_iff.mpr rfl
    simp [Definition.ofTokens, Keyword.accepts_text, hread]

theorem Definition.eq_malformed_of_ofTokens {tokens : List String} {fault : Fault}
    (h : Definition.ofTokens tokens = .error fault) : fault = .malformed tokens := by
  unfold Definition.ofTokens at h
  repeat' split at h
  all_goals first
    | exact (Except.error.inj h).symm
    | contradiction

namespace Statement

def amount : Statement → List String
  | definition _ => []
  | priceFact amount _ _ => amount
  | valueQuery amount => amount
  | priceQuery amount _ => amount

/-- The four layouts of a line and the statement that each of them makes. -/
inductive Layout : List String → Statement → Prop where
  | definition (token : String) (symbol : Symbol) :
      Layout [token, Keyword.is.text, symbol.text] (.definition ⟨token, symbol⟩)
  | priceFact {amount : List String} (material : String) {digits : String} {credits : Nat}
      (plain : ∀ word ∈ amount, Keyword.isReserved word = false)
      (number : credits? digits = some credits) :
      Layout (amount ++ [material, Keyword.is.text, digits, Keyword.credits.text])
        (.priceFact amount material credits)
  | valueQuery {how : String} {amount : List String} (opening : Keyword.how.accepts how = true)
      (nonempty : amount ≠ []) (plain : ∀ word ∈ amount, Keyword.isReserved word = false) :
      Layout ([how, Keyword.much.text, Keyword.is.text] ++ amount ++ [Keyword.question.text])
        (.valueQuery amount)
  | priceQuery {how : String} {amount : List String} (opening : Keyword.how.accepts how = true)
      (material : String) (plain : ∀ word ∈ amount, Keyword.isReserved word = false) :
      Layout
        ([how, Keyword.many.text, Keyword.credits.text, Keyword.is.text] ++ amount ++
          [material, Keyword.question.text])
        (.priceQuery amount material)

namespace Layout

variable {tokens : List String} {statement : Statement}

theorem amount_plain (h : Layout tokens statement) :
    ∀ word ∈ statement.amount, Keyword.isReserved word = false := by
  cases h with
  | definition => simp [Statement.amount]
  | priceFact _ plain => exact plain
  | valueQuery _ _ plain => exact plain
  | priceQuery _ _ plain => exact plain

theorem amount_subset (h : Layout tokens statement) : statement.amount ⊆ tokens := by
  cases h with
  | definition => simp [Statement.amount]
  | priceFact => exact List.subset_append_left _ _
  | valueQuery | priceQuery =>
      intro word hword
      simp only [Statement.amount] at hword
      simp [hword]

end Layout

theorem afterKeywords?_cons_eq_some {keyword : Keyword} {more : List Keyword}
    {tokens rest : List String} (h : afterKeywords? (keyword :: more) tokens = some rest) :
    ∃ token tail, tokens = token :: tail ∧ keyword.accepts token = true ∧
      afterKeywords? more tail = some rest := by
  cases tokens with
  | nil => simp [afterKeywords?] at h
  | cons token tail =>
      simp only [afterKeywords?] at h
      split at h
      next haccepts => exact ⟨token, tail, rfl, haccepts, h⟩
      next => contradiction

theorem afterKeywords?_value_eq_some {tokens amount : List String}
    (h : afterKeywords? [.how, .much, .is] tokens = some amount) :
    ∃ how, Keyword.how.accepts how = true ∧
      tokens = [how, Keyword.much.text, Keyword.is.text] ++ amount := by
  obtain ⟨how, _, rfl, hhow, h⟩ := afterKeywords?_cons_eq_some h
  obtain ⟨much, _, rfl, hmuch, h⟩ := afterKeywords?_cons_eq_some h
  obtain ⟨is, _, rfl, his, h⟩ := afterKeywords?_cons_eq_some h
  rw [Keyword.accepts_iff (by decide)] at hmuch his
  simp only [afterKeywords?, Option.some.injEq] at h
  exact ⟨how, hhow, by rw [hmuch, his, h]; rfl⟩

theorem afterKeywords?_price_eq_some {tokens rest : List String}
    (h : afterKeywords? [.how, .many, .credits, .is] tokens = some rest) :
    ∃ how, Keyword.how.accepts how = true ∧
      tokens = [how, Keyword.many.text, Keyword.credits.text, Keyword.is.text] ++ rest := by
  obtain ⟨how, _, rfl, hhow, h⟩ := afterKeywords?_cons_eq_some h
  obtain ⟨many, _, rfl, hmany, h⟩ := afterKeywords?_cons_eq_some h
  obtain ⟨credits, _, rfl, hcredits, h⟩ := afterKeywords?_cons_eq_some h
  obtain ⟨is, _, rfl, his, h⟩ := afterKeywords?_cons_eq_some h
  rw [Keyword.accepts_iff (by decide)] at hmany hcredits his
  simp only [afterKeywords?, Option.some.injEq] at h
  exact ⟨how, hhow, by rw [hmany, hcredits, his, h]; rfl⟩

theorem layout_of_ofPriceFact {tokens : List String} {statement : Statement}
    (hlast : tokens.getLast? = some Keyword.credits.text)
    (h : ofPriceFact tokens = .ok statement) : Layout tokens statement := by
  unfold ofPriceFact at h
  split at h
  next last digits copula material reversed hreverse =>
    have htokens : tokens = reversed.reverse ++ [material, copula, digits, last] := by
      simpa using congrArg List.reverse hreverse
    have hcredits : last = Keyword.credits.text := by
      simpa [htokens] using hlast
    split at h
    next => contradiction
    next hcopula =>
      have his : copula = Keyword.is.text := by
        simpa [Keyword.accepts_iff] using hcopula
      split at h
      next => contradiction
      next credits hnumber =>
        split at h
        next => contradiction
        next hplain =>
          simp only [Except.ok.injEq] at h
          rw [htokens, hcredits, his, ← h]
          refine .priceFact material ?_ hnumber
          simpa using hplain
  next => contradiction

theorem layout_of_ofQuery {tokens : List String} {statement : Statement}
    (hlast : tokens.getLast? = some Keyword.question.text)
    (h : ofQuery tokens = .ok statement) : Layout tokens statement := by
  have htokens : tokens = tokens.dropLast ++ [Keyword.question.text] := by
    obtain ⟨front, hfront⟩ := List.getLast?_eq_some_iff.mp hlast
    simp [hfront]
  unfold ofQuery at h
  simp only at h
  split at h
  next amount hvalue =>
    obtain ⟨how, hhow, hbody⟩ := afterKeywords?_value_eq_some hvalue
    split at h
    next => contradiction
    next hamount =>
      simp only [Bool.or_eq_true, List.isEmpty_iff, not_or] at hamount
      simp only [Except.ok.injEq] at h
      rw [htokens, hbody, ← h]
      refine .valueQuery hhow hamount.1 ?_
      simpa using hamount.2
  next =>
    split at h
    next rest hprice =>
      obtain ⟨how, hhow, hbody⟩ := afterKeywords?_price_eq_some hprice
      split at h
      next => contradiction
      next material hmaterial =>
        split at h
        next => contradiction
        next hamount =>
          obtain ⟨amount, rfl⟩ := List.getLast?_eq_some_iff.mp hmaterial
          simp only [List.dropLast_concat, Except.ok.injEq] at h hamount
          have hplain : ∀ word ∈ amount, Keyword.isReserved word = false := by
            simpa using hamount
          rw [htokens, hbody, ← h]
          simpa using Layout.priceQuery hhow material hplain
    next => contradiction

/-- Classification reads a line only as a statement that has the layout of the line. -/
theorem layout_of_ofTokens {tokens : List String} {statement : Statement}
    (h : ofTokens tokens = .ok statement) : Layout tokens statement := by
  unfold ofTokens at h
  split at h
  next => contradiction
  next last hlast =>
    split at h
    next hquestion =>
      rw [Keyword.accepts_iff (by decide)] at hquestion
      exact layout_of_ofQuery (hquestion ▸ hlast) h
    next =>
      split at h
      next hcredits =>
        rw [Keyword.accepts_iff (by decide)] at hcredits
        exact layout_of_ofPriceFact (hcredits ▸ hlast) h
      next =>
        split at h
        next =>
          cases hdefinition : Definition.ofTokens tokens with
          | error fault => simp [hdefinition, Except.map] at h
          | ok definition =>
              simp only [hdefinition, Except.map, Except.ok.injEq] at h
              rw [Definition.ofTokens_eq_ok_iff.mp hdefinition, ← h]
              exact .definition definition.token definition.symbol
        next => contradiction

theorem ofTokens_definition (token : String) (symbol : Symbol) :
    ofTokens [token, Keyword.is.text, symbol.text] = .ok (.definition ⟨token, symbol⟩) := by
  obtain ⟨hquestion, hcredits⟩ := symbol.text_ne_marker
  have hread : Definition.ofTokens [token, Keyword.is.text, symbol.text] = .ok ⟨token, symbol⟩ :=
    Definition.ofTokens_eq_ok_iff.mpr rfl
  simp [ofTokens, Keyword.accepts_iff, hquestion, hcredits, Keyword.accepts_text, hread, Except.map]

theorem ofPriceFact_of_plain {amount : List String} (material : String) {digits : String}
    {credits : Nat} (hplain : ∀ word ∈ amount, Keyword.isReserved word = false)
    (hnumber : credits? digits = some credits) :
    ofPriceFact (amount ++ [material, Keyword.is.text, digits, Keyword.credits.text]) =
      .ok (.priceFact amount material credits) := by
  have hunreserved : amount.any Keyword.isReserved = false := by
    simpa using hplain
  simp [ofPriceFact, Keyword.accepts_text, hnumber, hunreserved]

theorem ofQuery_of_value {how : String} {amount : List String}
    (hopening : Keyword.how.accepts how = true) (hne : amount ≠ [])
    (hplain : ∀ word ∈ amount, Keyword.isReserved word = false) :
    ofQuery ([how, Keyword.much.text, Keyword.is.text] ++ amount ++ [Keyword.question.text]) =
      .ok (.valueQuery amount) := by
  have hunreserved : amount.any Keyword.isReserved = false := by
    simpa using hplain
  have hbody : afterKeywords? [.how, .much, .is]
      ([how, Keyword.much.text, Keyword.is.text] ++ amount) = some amount := by
    simp [afterKeywords?, hopening, Keyword.accepts_text]
  unfold ofQuery
  simp only [List.dropLast_concat, hbody]
  simp [hne, hunreserved]

theorem ofQuery_of_price {how : String} {amount : List String}
    (hopening : Keyword.how.accepts how = true) (material : String)
    (hplain : ∀ word ∈ amount, Keyword.isReserved word = false) :
    ofQuery ([how, Keyword.many.text, Keyword.credits.text, Keyword.is.text] ++
      (amount ++ [material]) ++ [Keyword.question.text]) = .ok (.priceQuery amount material) := by
  have hunreserved : amount.any Keyword.isReserved = false := by
    simpa using hplain
  have hmuch : Keyword.much.accepts Keyword.many.text = false := by decide
  have hother : afterKeywords? [.how, .much, .is]
      ([how, Keyword.many.text, Keyword.credits.text, Keyword.is.text] ++
        (amount ++ [material])) = none := by
    simp [afterKeywords?, hopening, hmuch]
  have hbody : afterKeywords? [.how, .many, .credits, .is]
      ([how, Keyword.many.text, Keyword.credits.text, Keyword.is.text] ++
        (amount ++ [material])) = some (amount ++ [material]) := by
    simp [afterKeywords?, hopening, Keyword.accepts_text]
  unfold ofQuery
  simp only [List.dropLast_concat, hother, hbody, List.getLast?_concat, hunreserved]
  rfl

/-- Every line that has a layout is read as the statement of that layout. -/
theorem ofTokens_of_layout {tokens : List String} {statement : Statement}
    (h : Layout tokens statement) : ofTokens tokens = .ok statement := by
  cases h with
  | definition token symbol => exact ofTokens_definition token symbol
  | priceFact material plain number =>
      have hquestion : Keyword.question.accepts Keyword.credits.text = false := by decide
      simp [ofTokens, hquestion, Keyword.accepts_text, ofPriceFact_of_plain material plain number]
  | valueQuery opening nonempty plain =>
      unfold ofTokens
      rw [List.getLast?_concat]
      simp only [Keyword.accepts_text, if_true, ofQuery_of_value opening nonempty plain]
  | @priceQuery how amount opening material plain =>
      have hlast : [material, Keyword.question.text] = [material] ++ [Keyword.question.text] := rfl
      unfold ofTokens
      rw [hlast, ← List.append_assoc, List.getLast?_concat, List.append_assoc _ amount]
      simp only [Keyword.accepts_text, if_true, ofQuery_of_price opening material plain]

theorem eq_malformed_of_ofPriceFact {tokens : List String} {fault : Fault}
    (h : ofPriceFact tokens = .error fault) : fault = .malformed tokens := by
  unfold ofPriceFact at h
  repeat' split at h
  all_goals first
    | exact (Except.error.inj h).symm
    | contradiction

theorem eq_malformed_or_unrecognized_of_ofQuery {tokens : List String} {fault : Fault}
    (h : ofQuery tokens = .error fault) : fault = .malformed tokens ∨ fault = .unrecognized := by
  unfold ofQuery at h
  simp only at h
  repeat' split at h
  all_goals first
    | exact .inl (Except.error.inj h).symm
    | exact .inr (Except.error.inj h).symm
    | contradiction

/-- A line that is no statement either echoes itself or is not understood at all. -/
theorem eq_malformed_or_unrecognized_of_ofTokens {tokens : List String} {fault : Fault}
    (h : ofTokens tokens = .error fault) : fault = .malformed tokens ∨ fault = .unrecognized := by
  unfold ofTokens at h
  split at h
  next => exact .inl (Except.error.inj h).symm
  next =>
    split at h
    next => exact eq_malformed_or_unrecognized_of_ofQuery h
    next =>
      split at h
      next => exact .inl (eq_malformed_of_ofPriceFact h)
      next =>
        split at h
        next =>
          cases hdefinition : Definition.ofTokens tokens with
          | error cause =>
              simp only [hdefinition, Except.map, Except.error.injEq] at h
              exact .inl (h ▸ Definition.eq_malformed_of_ofTokens hdefinition)
          | ok definition => simp [hdefinition, Except.map] at h
        next => exact .inr (Except.error.inj h).symm

theorem isUserFault_of_ofTokens {tokens : List String} {fault : Fault}
    (h : ofTokens tokens = .error fault) : fault.isUserFault = true := by
  rcases eq_malformed_or_unrecognized_of_ofTokens h with rfl | rfl
  · rfl
  · rfl

end Statement
end RomanTrade
