import Mathlib.Algebra.Group.Nat.Defs
import Mathlib.Data.Set.Subsingleton
import RomanTrade.Proofs.StatementGrammar

/-!
# Which lines are statements

`Statement.WrittenAs` is the grammar of statements in terms of the words and characters of a line.
Classification reads exactly these lines.  Any other line is malformed if it bears the mark of a
statement, and is not understood if it bears none.
-/

namespace RomanTrade

namespace Keyword

theorem how_accepts_iff {token : String} :
    how.accepts token = true ↔ token.toLower = "how" := by
  have hletters : Keyword.how.text.toList.map Char.toLower = "how".toList := by decide
  unfold accepts Text.sameIgnoringCase String.toLower
  simp only [beq_iff_eq]
  rw [hletters, ← String.toList_map, String.toList_inj]

/-- A word without a fixed meaning. -/
def Unreserved (word : String) : Prop :=
  word.toLower ≠ "how" ∧ word ∉ ["is", "much", "many", "Credits", "?"]

theorem isReserved_eq_false_iff {word : String} :
    isReserved word = false ↔ Unreserved word := by
  have hhow : how.accepts word = false ↔ word.toLower ≠ "how" := by
    rw [← Bool.not_eq_true, how_accepts_iff]
  unfold Unreserved
  rw [← hhow]
  simp [isReserved, all, accepts, text, and_left_comm]

theorem forall_isReserved_eq_false_iff {words : List String} :
    (∀ word ∈ words, isReserved word = false) ↔ ∀ word ∈ words, Unreserved word :=
  forall₂_congr fun _ _ => isReserved_eq_false_iff

end Keyword

namespace Statement

theorem credits?_eq_some_iff {written : String} {credits : Nat} :
    credits? written = some credits ↔
      written ≠ "" ∧ (∀ c ∈ written.toList, c.isDigit = true) ∧
        Nat.ofDigitChars 10 written.toList 0 = credits ∧ credits < 2 ^ 63 := by
  have hlargest : largestCredits + 1 = 2 ^ 63 := rfl
  have hempty : written ≠ "" ↔ written.toList ≠ [] := not_congr String.toList_eq_nil_iff.symm
  rw [hempty]
  unfold credits?
  simp only [Bool.or_eq_true, List.isEmpty_iff, Bool.not_eq_true', List.all_eq_false]
  split
  next hrefused =>
    simp only [reduceCtorEq, false_iff]
    rintro ⟨hne, hdigits, _⟩
    rcases hrefused with hnil | ⟨c, hc, hother⟩
    · exact hne hnil
    · exact hother (hdigits c hc)
  next hdigits =>
    simp only [not_or, not_exists, not_and, Classical.not_not] at hdigits
    change (if Nat.ofDigitChars 10 written.toList 0 ≤ largestCredits then
      some (Nat.ofDigitChars 10 written.toList 0) else none) = some credits ↔ _
    simp only [Option.ite_none_right_eq_some, Option.some.injEq]
    constructor
    · rintro ⟨hle, rfl⟩
      exact ⟨hdigits.1, hdigits.2, rfl, by omega⟩
    · rintro ⟨_, _, rfl, hlt⟩
      exact ⟨by omega, rfl⟩

theorem credits?_toString {credits : Nat} (hlt : credits < 2 ^ 63) :
    credits? (toString credits) = some credits := by
  have hletters : (toString credits).toList = Nat.toDigits 10 credits := by
    rw [Nat.toString_eq_ofList_toDigits, String.toList_ofList]
  rw [credits?_eq_some_iff, hletters]
  refine ⟨?_, ?_, Nat.ofDigitChars_ten_toDigits, hlt⟩
  · intro hempty
    rw [← String.toList_eq_nil_iff, hletters] at hempty
    exact Nat.toDigits_ne_nil hempty
  · intro c hc
    exact Nat.isDigit_of_mem_toDigits (by decide) (by decide) hc

/-- The grammar of statements: the lines that may be read as a given statement. -/
def WrittenAs (tokens : List String) : Statement → Prop
  | definition ⟨token, symbol⟩ => tokens = [token, "is", symbol.text]
  | priceFact amount material credits =>
    ∃ digits, tokens = amount ++ [material, "is", digits, "Credits"] ∧
      (∀ word ∈ amount, Keyword.Unreserved word) ∧
      digits ≠ "" ∧ (∀ c ∈ digits.toList, c.isDigit = true) ∧
      Nat.ofDigitChars 10 digits.toList 0 = credits ∧ credits < 2 ^ 63
  | valueQuery amount =>
    ∃ how, tokens = [how, "much", "is"] ++ amount ++ ["?"] ∧ how.toLower = "how" ∧
      amount ≠ [] ∧ ∀ word ∈ amount, Keyword.Unreserved word
  | priceQuery amount material =>
    ∃ how, tokens = [how, "many", "Credits", "is"] ++ amount ++ [material, "?"] ∧
      how.toLower = "how" ∧ ∀ word ∈ amount, Keyword.Unreserved word

theorem layout_iff_writtenAs {tokens : List String} {statement : Statement} :
    Layout tokens statement ↔ statement.WrittenAs tokens := by
  constructor
  · intro hlayout
    cases hlayout with
    | definition token symbol => rfl
    | priceFact material plain number =>
        have hplain := Keyword.forall_isReserved_eq_false_iff.mp plain
        exact ⟨_, rfl, hplain, credits?_eq_some_iff.mp number⟩
    | valueQuery opening nonempty plain =>
        have hplain := Keyword.forall_isReserved_eq_false_iff.mp plain
        exact ⟨_, rfl, Keyword.how_accepts_iff.mp opening, nonempty, hplain⟩
    | priceQuery opening material plain =>
        have hplain := Keyword.forall_isReserved_eq_false_iff.mp plain
        exact ⟨_, rfl, Keyword.how_accepts_iff.mp opening, hplain⟩
  · intro hwritten
    cases statement with
    | definition d =>
        rw [hwritten]
        exact .definition d.token d.symbol
    | priceFact amount material credits =>
        obtain ⟨digits, rfl, hplain, hnumber⟩ := hwritten
        have plain := Keyword.forall_isReserved_eq_false_iff.mpr hplain
        exact .priceFact material plain (credits?_eq_some_iff.mpr hnumber)
    | valueQuery amount =>
        obtain ⟨how, rfl, hhow, hne, hplain⟩ := hwritten
        have plain := Keyword.forall_isReserved_eq_false_iff.mpr hplain
        exact .valueQuery (Keyword.how_accepts_iff.mpr hhow) hne plain
    | priceQuery amount material =>
        obtain ⟨how, rfl, hhow, hplain⟩ := hwritten
        have plain := Keyword.forall_isReserved_eq_false_iff.mpr hplain
        exact .priceQuery (Keyword.how_accepts_iff.mpr hhow) material plain

theorem ofTokens_eq_ok_iff {tokens : List String} {statement : Statement} :
    ofTokens tokens = .ok statement ↔ statement.WrittenAs tokens := by
  rw [← layout_iff_writtenAs]
  exact ⟨layout_of_ofTokens, ofTokens_of_layout⟩

/-- A statement is written as the line that prints it, whichever line it was read from. -/
theorem WrittenAs.tokens {line : List String} {statement : Statement}
    (hwritten : statement.WrittenAs line) : statement.WrittenAs statement.tokens := by
  have hhow : Keyword.how.text.toLower = "how" :=
    Keyword.how_accepts_iff.mp (Keyword.accepts_text .how)
  cases statement with
  | definition d => rfl
  | priceFact amount material credits =>
      obtain ⟨digits, _, hplain, _, _, _, hlt⟩ := hwritten
      exact ⟨toString credits, rfl, hplain, credits?_eq_some_iff.mp (credits?_toString hlt)⟩
  | valueQuery amount =>
      obtain ⟨how, _, _, hne, hplain⟩ := hwritten
      exact ⟨_, rfl, hhow, hne, hplain⟩
  | priceQuery amount material =>
      obtain ⟨how, _, _, hplain⟩ := hwritten
      exact ⟨_, rfl, hhow, hplain⟩

/-- The marks of a statement: `Credits` at the end, a copula in second place unless the line ends in
a question mark, and the openings of the two questions.  The empty line counts as marked. -/
inductive Marked : List String → Prop where
  | empty : Marked []
  | fact (front : List String) : Marked (front ++ ["Credits"])
  | copula {first : String} {rest : List String}
      (unasked : (first :: "is" :: rest).getLast? ≠ some "?") : Marked (first :: "is" :: rest)
  | valueQuery {how : String} (opening : how.toLower = "how") (rest : List String) :
      Marked ([how, "much", "is"] ++ rest ++ ["?"])
  | priceQuery {how : String} (opening : how.toLower = "how") (rest : List String) :
      Marked ([how, "many", "Credits", "is"] ++ rest ++ ["?"])

theorem ofTokens_question (front : List String) :
    ofTokens (front ++ ["?"]) = ofQuery (front ++ ["?"]) := by
  have hquestion : Keyword.question.accepts "?" = true := by decide
  unfold ofTokens
  simp [hquestion]

theorem ofTokens_credits (front : List String) :
    ofTokens (front ++ ["Credits"]) = ofPriceFact (front ++ ["Credits"]) := by
  have hquestion : Keyword.question.accepts "Credits" = false := by decide
  have hcredits : Keyword.credits.accepts "Credits" = true := by decide
  unfold ofTokens
  simp [hquestion, hcredits]

theorem ofQuery_eq_unrecognized_iff {tokens : List String} :
    ofQuery tokens = .error .unrecognized ↔
      afterKeywords? [.how, .much, .is] tokens.dropLast = none ∧
        afterKeywords? [.how, .many, .credits, .is] tokens.dropLast = none := by
  unfold ofQuery
  simp only
  repeat' split
  all_goals simp_all

theorem afterKeywords?_value {how : String} (hopening : how.toLower = "how")
    (rest : List String) :
    afterKeywords? [.how, .much, .is] ([how, Keyword.much.text, Keyword.is.text] ++ rest) =
      some rest := by
  have hhow := Keyword.how_accepts_iff.mpr hopening
  simp [afterKeywords?, hhow, Keyword.accepts_text]

theorem afterKeywords?_price {how : String} (hopening : how.toLower = "how")
    (rest : List String) :
    afterKeywords? [.how, .many, .credits, .is]
      ([how, Keyword.many.text, Keyword.credits.text, Keyword.is.text] ++ rest) = some rest := by
  have hhow := Keyword.how_accepts_iff.mpr hopening
  simp [afterKeywords?, hhow, Keyword.accepts_text]

theorem exists_of_copula_second {tokens : List String}
    (hcopula : tokens[1]?.any Keyword.is.accepts = true) :
    ∃ first rest, tokens = first :: "is" :: rest := by
  match tokens, hcopula with
  | first :: second :: rest, hcopula =>
      have haccepts : Keyword.is.accepts second = true := hcopula
      rw [Keyword.accepts_iff (by decide)] at haccepts
      exact ⟨first, rest, by rw [haccepts]; rfl⟩

/-- Such a line is taken for a price fact or for a definition, and the faults of both echo it. -/
theorem ofTokens_ne_unrecognized_of_copula {tokens : List String}
    (hcopula : tokens[1]?.any Keyword.is.accepts = true)
    (hunasked : tokens.getLast? ≠ some "?") : ofTokens tokens ≠ .error .unrecognized := by
  intro hunrecognized
  unfold ofTokens at hunrecognized
  rw [if_pos hcopula] at hunrecognized
  split at hunrecognized
  next => cases hunrecognized
  next last hlast =>
    split at hunrecognized
    next hquestion =>
      rw [Keyword.accepts_iff (by decide)] at hquestion
      rw [hquestion] at hlast
      exact hunasked hlast
    next =>
      split at hunrecognized
      next =>
        have hfault := eq_malformed_of_ofPriceFact hunrecognized
        contradiction
      next =>
        cases hdefinition : Definition.ofTokens tokens with
        | ok definition => simp [hdefinition, Except.map] at hunrecognized
        | error fault =>
            have hfault := Definition.eq_malformed_of_ofTokens hdefinition
            simp [hdefinition, hfault, Except.map] at hunrecognized

theorem Marked.ofTokens_ne_unrecognized {tokens : List String} (hmarked : Marked tokens) :
    ofTokens tokens ≠ .error .unrecognized := by
  intro hunrecognized
  cases hmarked with
  | empty => contradiction
  | fact front =>
      rw [ofTokens_credits] at hunrecognized
      have hfault := eq_malformed_of_ofPriceFact hunrecognized
      contradiction
  | @copula first rest unasked =>
      have hcopula : (first :: "is" :: rest)[1]?.any Keyword.is.accepts = true :=
        Keyword.accepts_text .is
      exact ofTokens_ne_unrecognized_of_copula hcopula unasked hunrecognized
  | valueQuery opening rest =>
      rw [ofTokens_question, ofQuery_eq_unrecognized_iff, List.dropLast_concat] at hunrecognized
      have hvalue := (afterKeywords?_value opening rest).symm.trans hunrecognized.1
      contradiction
  | priceQuery opening rest =>
      rw [ofTokens_question, ofQuery_eq_unrecognized_iff, List.dropLast_concat] at hunrecognized
      have hprice := (afterKeywords?_price opening rest).symm.trans hunrecognized.2
      contradiction

theorem marked_of_ofQuery {front echoed : List String}
    (hmalformed : ofQuery (front ++ ["?"]) = .error (.malformed echoed)) :
    Marked (front ++ ["?"]) := by
  cases hvalue : afterKeywords? [.how, .much, .is] front with
  | some amount =>
      obtain ⟨how, hhow, rfl⟩ := afterKeywords?_value_eq_some hvalue
      exact .valueQuery (Keyword.how_accepts_iff.mp hhow) amount
  | none =>
      cases hprice : afterKeywords? [.how, .many, .credits, .is] front with
      | some rest =>
          obtain ⟨how, hhow, rfl⟩ := afterKeywords?_price_eq_some hprice
          exact .priceQuery (Keyword.how_accepts_iff.mp hhow) rest
      | none =>
          have hunrecognized : ofQuery (front ++ ["?"]) = .error .unrecognized := by
            rw [ofQuery_eq_unrecognized_iff, List.dropLast_concat]
            exact ⟨hvalue, hprice⟩
          rw [hunrecognized] at hmalformed
          cases hmalformed

/-- A line is echoed as malformed only for a mark that it bears. -/
theorem marked_of_ofTokens_eq_malformed {tokens echoed : List String}
    (hmalformed : ofTokens tokens = .error (.malformed echoed)) : Marked tokens := by
  unfold ofTokens at hmalformed
  split at hmalformed
  next hnone =>
    rw [List.getLast?_eq_none_iff.mp hnone]
    exact .empty
  next last hlast =>
    obtain ⟨front, rfl⟩ := List.getLast?_eq_some_iff.mp hlast
    split at hmalformed
    next hquestion =>
      rw [Keyword.accepts_iff (by decide)] at hquestion
      rw [hquestion] at hmalformed ⊢
      exact marked_of_ofQuery hmalformed
    next hunasked =>
      split at hmalformed
      next hcredits =>
        rw [Keyword.accepts_iff (by decide)] at hcredits
        rw [hcredits]
        exact .fact front
      next =>
        split at hmalformed
        next hcopula =>
          obtain ⟨first, rest, htokens⟩ := exists_of_copula_second hcopula
          rw [htokens] at hlast ⊢
          refine .copula ?_
          rintro hasked
          rw [hlast] at hasked
          exact hunasked (by rw [Option.some.inj hasked]; decide)
        next => cases hmalformed

theorem exists_fault_of_unwritten {tokens : List String}
    (hunwritten : ∀ statement : Statement, ¬ statement.WrittenAs tokens) :
    ofTokens tokens = .error (.malformed tokens) ∨ ofTokens tokens = .error .unrecognized := by
  cases hread : ofTokens tokens with
  | ok statement => exact absurd (ofTokens_eq_ok_iff.mp hread) (hunwritten statement)
  | error fault =>
      rcases eq_malformed_or_unrecognized_of_ofTokens hread with rfl | rfl
      · exact .inl rfl
      · exact .inr rfl

theorem unwritten_of_ofTokens_eq_error {tokens : List String} {fault : Fault}
    (hfault : ofTokens tokens = .error fault) (statement : Statement) :
    ¬ statement.WrittenAs tokens := by
  rw [← ofTokens_eq_ok_iff, hfault]
  intro hread
  cases hread

/-- Classification accepts exactly the grammar of statements and reads no line in two ways; the
printed form of every statement that can be written is read as that statement.  A line outside the
grammar is malformed if it is marked and not understood otherwise. -/
theorem classification_follows_grammar (tokens : List String) :
    (∀ statement, ofTokens tokens = .ok statement ↔ statement.WrittenAs tokens) ∧
    {statement : Statement | statement.WrittenAs tokens}.Subsingleton ∧
    (∀ statement, ofTokens statement.tokens = .ok statement ↔
      ∃ line, statement.WrittenAs line) ∧
    (ofTokens tokens = .error (.malformed tokens) ↔
      (∀ statement : Statement, ¬ statement.WrittenAs tokens) ∧ Marked tokens) ∧
    (ofTokens tokens = .error .unrecognized ↔
      (∀ statement : Statement, ¬ statement.WrittenAs tokens) ∧ ¬ Marked tokens) := by
  refine ⟨fun statement => ofTokens_eq_ok_iff, ?_, ?_, ?_, ?_⟩
  · intro first hfirst second hsecond
    have hread := ofTokens_eq_ok_iff.mpr hfirst
    have hagain := ofTokens_eq_ok_iff.mpr hsecond
    exact Except.ok.inj (hread.symm.trans hagain)
  · intro statement
    rw [ofTokens_eq_ok_iff]
    constructor
    · intro hwritten
      exact ⟨statement.tokens, hwritten⟩
    · rintro ⟨line, hwritten⟩
      exact hwritten.tokens
  · constructor
    · intro hmalformed
      exact ⟨unwritten_of_ofTokens_eq_error hmalformed, marked_of_ofTokens_eq_malformed hmalformed⟩
    · rintro ⟨hunwritten, hmarked⟩
      have hfault := exists_fault_of_unwritten hunwritten
      exact hfault.resolve_right hmarked.ofTokens_ne_unrecognized
  · constructor
    · intro hunrecognized
      refine ⟨unwritten_of_ofTokens_eq_error hunrecognized, ?_⟩
      intro hmarked
      exact hmarked.ofTokens_ne_unrecognized hunrecognized
    · rintro ⟨hunwritten, hunmarked⟩
      have hfault := exists_fault_of_unwritten hunwritten
      refine hfault.resolve_left ?_
      intro hmalformed
      exact hunmarked (marked_of_ofTokens_eq_malformed hmalformed)

end Statement
end RomanTrade
