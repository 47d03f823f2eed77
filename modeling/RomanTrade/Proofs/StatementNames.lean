import RomanTrade.Proofs.SessionAgreement
import RomanTrade.Proofs.StatementFrame

/-!
# The names of a statement

A statement reads and writes only the entries for its own names: the token that it defines, or the
tokens of its amount and its material.  Sessions that agree on these names let it do the same, so
statements without a common name do the same in either order.
-/

namespace RomanTrade

namespace Lexicon

variable {α : Type} {lexicon left right : Lexicon α}

theorem lookup_eq_some_iff_mem {entries : List (String × α)}
    (hdistinct : (entries.map Prod.fst).Nodup) {word : String} {meaning : α} :
    entries.lookup word = some meaning ↔ (word, meaning) ∈ entries := by
  induction entries with
  | nil => simp
  | cons entry rest ih =>
      obtain ⟨name, old⟩ := entry
      rw [List.map_cons, List.nodup_cons] at hdistinct
      rw [lookup_cons_eq_ite, List.mem_cons, Prod.mk.injEq]
      by_cases hname : word = name
      · subst hname
        have habsent : (word, meaning) ∉ rest := by
          intro hmem
          apply hdistinct.1
          exact List.mem_map.mpr ⟨(word, meaning), hmem, rfl⟩
        simp [habsent, eq_comm]
      · simp [hname, ih hdistinct.2]

theorem get?_eq_some_iff_mem {word : String} {meaning : α} :
    lexicon.get? word = some meaning ↔ (word, meaning) ∈ lexicon.entries :=
  lookup_eq_some_iff_mem lexicon.distinct

theorem nodup_entries (lexicon : Lexicon α) : lexicon.entries.Nodup := by
  refine List.Pairwise.of_map Prod.fst ?_ lexicon.distinct
  intro first second hwords hsame
  exact hwords (congrArg Prod.fst hsame)

/-- Word tables in which every word means the same hold the same entries. -/
theorem perm_of_get?_eq (hsame : ∀ word, right.get? word = left.get? word) :
    left.entries.Perm right.entries := by
  rw [List.perm_ext_iff_of_nodup left.nodup_entries right.nodup_entries]
  rintro ⟨word, meaning⟩
  rw [← get?_eq_some_iff_mem, ← get?_eq_some_iff_mem, hsame]

end Lexicon

namespace Session

/-- Sessions with the same entries, in whatever order these were made. -/
structure SameEntries (left right : Session) : Prop where
  alphabet : left.alphabet.entries.Perm right.alphabet.entries
  prices : left.prices.entries.Perm right.prices.entries

variable {left right : Session}

theorem sameEntries_of_agreeOn (hagree : ∀ word, AgreeOn word left right) :
    SameEntries left right := by
  constructor
  · apply Lexicon.perm_of_get?_eq
    exact fun word => (hagree word).symbol
  · apply Lexicon.perm_of_get?_eq
    exact fun word => (hagree word).price

theorem AgreeOn.withSymbol {word : String} (hagree : AgreeOn word left right)
    (definition : Definition) :
    AgreeOn word (left.withSymbol definition) (right.withSymbol definition) := by
  constructor
  · rw [get?_alphabet_withSymbol, get?_alphabet_withSymbol, hagree.symbol]
  · exact hagree.price

theorem AgreeOn.withPrice {word : String} (hagree : AgreeOn word left right) (material : String)
    (price : Price) :
    AgreeOn word (left.withPrice material price) (right.withPrice material price) := by
  constructor
  · exact hagree.symbol
  · rw [get?_prices_withPrice, get?_prices_withPrice, hagree.price]

/-- From `before` to `after` only one entry was written, in one of the tables and for one name. -/
def EntryWritten (before after : Session) (name : String) : Prop :=
  (∃ symbol, before.TokenWritten after name symbol) ∨
    ∃ price, before.PriceWritten after name price

theorem EntryWritten.agreeOn {before after : Session} {name word : String}
    (hwritten : before.EntryWritten after name) (hword : word ≠ name) :
    AgreeOn word before after := by
  rcases hwritten with ⟨symbol, htoken⟩ | ⟨price, hprice⟩
  · constructor
    · exact htoken.others word hword
    · rw [htoken.prices]
  · constructor
    · rw [hprice.alphabet]
    · exact hprice.others word hword

end Session

namespace Statement

def names : Statement → List String
  | definition d => [d.token]
  | priceFact amount material _ => amount ++ [material]
  | valueQuery amount => amount
  | priceQuery amount material => amount ++ [material]

/-- The names of the statement that a line makes; a line that makes none has no names. -/
def lineNames (tokens : List String) : List String :=
  match ofTokens tokens with
  | .ok statement => statement.names
  | .error _ => []

end Statement

namespace Interpreter

/-- Two interpreters take an action alike: its outcome is the same, and words on which their
sessions agree before are words on which they agree afterwards. -/
structure Alike (left right : Interpreter) (act : Interpreter → Outcome × Interpreter) : Prop where
  outcome : (act right).1 = (act left).1
  agree : ∀ word, Session.AgreeOn word left.session right.session →
    Session.AgreeOn word (act left).2.session (act right).2.session

variable {left right : Interpreter} {amount : List String} {material : String}

theorem Alike.of_unchanged {act : Interpreter → Outcome × Interpreter} (outcome : Outcome)
    (hleft : act left = (outcome, left)) (hright : act right = (outcome, right)) :
    Alike left right act := by
  constructor
  · rw [hleft, hright]
  · intro word hagree
    rw [hleft, hright]
    exact hagree

theorem alike_learnSymbol {definition : Definition}
    (htoken : Session.AgreeOn definition.token left.session right.session) :
    Alike left right (·.learnSymbol definition) := by
  have hpriced := Session.contains_price_of_agree htoken
  by_cases hreserved : Keyword.isReserved definition.token = true
  · apply Alike.of_unchanged (.refused (.reservedWord definition.token))
    · simp [learnSymbol, Session.define, hreserved]
    · simp [learnSymbol, Session.define, hreserved]
  · rw [Bool.not_eq_true] at hreserved
    cases hmaterial : left.session.prices.contains definition.token with
    | true =>
        rw [hmaterial] at hpriced
        apply Alike.of_unchanged (.refused (.tokenIsMaterial definition.token))
        · simp [learnSymbol, Session.define, hreserved, hmaterial]
        · simp [learnSymbol, Session.define, hreserved, hpriced]
    | false =>
        rw [hmaterial] at hpriced
        constructor
        · rw [left.learnSymbol_of_free definition hreserved hmaterial,
            right.learnSymbol_of_free definition hreserved hpriced, htoken.symbol]
        · intro word hagree
          rw [left.learnSymbol_of_free definition hreserved hmaterial,
            right.learnSymbol_of_free definition hreserved hpriced]
          exact hagree.withSymbol definition

theorem alike_storePrice (hpolicy : right.policy = left.policy)
    (hmaterial : Session.AgreeOn material left.session right.session) (price : Price) :
    Alike left right (·.storePrice material price) := by
  have hcheck := Session.checkMaterial_of_agree hmaterial
  by_cases hfraction : left.policy = .wholeCredits ∧ price.isWhole = false
  · apply Alike.of_unchanged (.refused (.fractionalUnitPrice material price.text))
    · simp [storePrice, hfraction]
    · simp [storePrice, hpolicy, hfraction]
  · unfold storePrice Session.setPrice
    rw [← hpolicy] at hfraction
    cases hnamed : left.session.checkMaterial material with
    | error fault =>
        apply Alike.of_unchanged (.refused fault)
        · simp only [← hpolicy, hfraction, hnamed, if_false]
        · simp only [hfraction, hcheck, hnamed, if_false]
    | ok _ =>
        constructor
        · simp only [← hpolicy, hfraction, hcheck, hnamed, if_false]
        · intro word hagree
          simp only [← hpolicy, hfraction, hcheck, hnamed, if_false]
          exact hagree.withPrice material price

theorem alike_learnPrice (hpolicy : right.policy = left.policy)
    (hmaterial : Session.AgreeOn material left.session right.session)
    (hamount : ∀ word ∈ amount, Session.AgreeOn word left.session right.session)
    (credits : Nat) : Alike left right (·.learnPrice amount material credits) := by
  have hcheck := Session.checkMaterial_of_agree hmaterial
  have hquantity := Session.quantity_of_agree hamount
  unfold learnPrice
  cases hnamed : left.session.checkMaterial material with
  | error fault =>
      apply Alike.of_unchanged (.refused fault)
      · simp only [hnamed]
      · simp only [hcheck, hnamed]
  | ok _ =>
    cases hcounted : left.session.quantity amount with
    | error fault =>
        apply Alike.of_unchanged (.refused fault)
        · simp only [hnamed, hcounted]
        · simp only [hcheck, hnamed, hquantity, hcounted]
    | ok resolution =>
      cases resolution with
      | missing token =>
          apply Alike.of_unchanged (.replied (.missing token))
          · simp only [hnamed, hcounted]
          · simp only [hcheck, hnamed, hquantity, hcounted]
      | resolved units =>
        cases hshared : Price.ofRatio? credits units with
        | none =>
            apply Alike.of_unchanged .zeroQuantity
            · simp only [hnamed, hcounted, hshared]
            · simp only [hcheck, hnamed, hquantity, hcounted, hshared]
        | some price =>
            have hstored := alike_storePrice hpolicy hmaterial price
            constructor
            · simp only [hcheck, hnamed, hquantity, hcounted, hshared]
              exact hstored.outcome
            · simp only [hcheck, hnamed, hquantity, hcounted, hshared]
              exact hstored.agree

theorem answerPrice_of_agree {early late : Session}
    (hmaterial : Session.AgreeOn material early late)
    (hamount : ∀ word ∈ amount, Session.AgreeOn word early late) :
    answerPrice late amount material = answerPrice early amount material := by
  unfold answerPrice
  rw [Session.unitPrice_of_agree hmaterial, Session.quantity_of_agree hamount]

theorem answerValue_of_agree {early late : Session}
    (hamount : ∀ word ∈ amount, Session.AgreeOn word early late) :
    answerValue late amount = answerValue early amount := by
  unfold answerValue
  rw [Session.evaluate_of_agree hamount]

theorem alike_run (hpolicy : right.policy = left.policy) {statement : Statement}
    (hnames : ∀ name ∈ statement.names, Session.AgreeOn name left.session right.session) :
    Alike left right (·.run statement) := by
  cases statement with
  | definition definition =>
      apply alike_learnSymbol
      exact hnames definition.token List.mem_cons_self
  | priceFact amount material credits =>
      rw [Statement.names, List.forall_mem_append, List.forall_mem_singleton] at hnames
      exact alike_learnPrice hpolicy hnames.2 hnames.1 credits
  | valueQuery amount =>
      apply Alike.of_unchanged (answerValue left.session amount)
      · rfl
      · rw [Statement.names] at hnames
        rw [run, answerValue_of_agree hnames]
  | priceQuery amount material =>
      rw [Statement.names, List.forall_mem_append, List.forall_mem_singleton] at hnames
      apply Alike.of_unchanged (answerPrice left.session amount material)
      · rfl
      · rw [run, answerPrice_of_agree hnames.2 hnames.1]

/-- A line is executed alike wherever its names have the same entries. -/
theorem alike_execute (hpolicy : right.policy = left.policy) {tokens : List String}
    (hnames : ∀ name ∈ Statement.lineNames tokens,
      Session.AgreeOn name left.session right.session) :
    Alike left right (·.execute tokens) := by
  unfold Statement.lineNames at hnames
  cases hread : Statement.ofTokens tokens with
  | error fault =>
      apply Alike.of_unchanged (.refused fault)
      · simp only [execute, hread]
      · simp only [execute, hread]
  | ok statement =>
      rw [hread] at hnames
      have halike := alike_run hpolicy hnames
      constructor
      · simp only [execute_eq_run _ hread]
        exact halike.outcome
      · simp only [execute_eq_run _ hread]
        exact halike.agree

theorem Step.policy_eq {before after : Interpreter} {statement : Statement} {outcome : Outcome}
    (hstep : Step before statement outcome after) : after.policy = before.policy := by
  cases hstep with
  | refuse | wait | answerValue | answerPrice | collapse | learnSymbol | learnPrice => rfl

theorem policy_execute (interpreter : Interpreter) (tokens : List String) :
    (interpreter.execute tokens).2.policy = interpreter.policy := by
  rcases interpreter.execute_cases tokens with ⟨fault, _, hrefused⟩ | ⟨statement, _, hstep⟩
  · rw [hrefused]
  · exact hstep.policy_eq

theorem Step.writes_name {before after : Interpreter} {statement : Statement} {outcome : Outcome}
    (hstep : Step before statement outcome after) :
    after = before ∨
      ∃ name ∈ statement.names, before.session.EntryWritten after.session name := by
  cases hstep with
  | refuse | wait | answerValue | answerPrice | collapse => exact .inl rfl
  | @learnSymbol definition =>
      right
      refine ⟨definition.token, List.mem_cons_self, .inl ⟨definition.symbol, ?_⟩⟩
      exact before.session.tokenWritten_withSymbol definition
  | @learnPrice amount material credits units price =>
      right
      refine ⟨material, List.mem_append_right amount List.mem_cons_self, .inr ⟨price, ?_⟩⟩
      exact before.session.priceWritten_withPrice material price

/-- A line changes nothing, or the entry for one of its names. -/
theorem execute_writes_name (interpreter : Interpreter) (tokens : List String) :
    (interpreter.execute tokens).2 = interpreter ∨ ∃ name ∈ Statement.lineNames tokens,
      interpreter.session.EntryWritten (interpreter.execute tokens).2.session name := by
  rcases interpreter.execute_cases tokens with ⟨fault, _, hrefused⟩ | ⟨statement, hread, hstep⟩
  · left
    rw [hrefused]
  · unfold Statement.lineNames
    rw [hread]
    exact hstep.writes_name

theorem execute_agreeOn (interpreter : Interpreter) {tokens : List String} {word : String}
    (hword : word ∉ Statement.lineNames tokens) :
    Session.AgreeOn word interpreter.session (interpreter.execute tokens).2.session := by
  rcases interpreter.execute_writes_name tokens with hsame | ⟨name, hname, hwritten⟩
  · rw [hsame]
    exact .refl word interpreter.session
  · apply hwritten.agreeOn
    rintro rfl
    exact hword hname

variable {first second : List String}

/-- A line that is executed behind another one does what it would have done before it. -/
theorem alike_behind (interpreter : Interpreter)
    (hapart : ∀ name ∈ Statement.lineNames second, name ∉ Statement.lineNames first) :
    Alike interpreter (interpreter.execute first).2 (·.execute second) := by
  apply alike_execute (interpreter.policy_execute first)
  intro name hname
  exact interpreter.execute_agreeOn (hapart name hname)

theorem agreeOn_swapped (interpreter : Interpreter)
    (hapart : ∀ name ∈ Statement.lineNames first, name ∉ Statement.lineNames second)
    {word : String} (hword : word ∉ Statement.lineNames second) :
    Session.AgreeOn word ((interpreter.execute first).2.execute second).2.session
      ((interpreter.execute second).2.execute first).2.session := by
  have hlate := (interpreter.execute first).2.execute_agreeOn hword
  have hearly := interpreter.execute_agreeOn hword
  have hfirst := (alike_behind interpreter hapart).agree word hearly
  exact hlate.symm.trans hfirst

/-- A line does the same in all sessions that agree on its names, and writes at most one entry, for
one of them.  Lines without a common name have the same outcomes in either order and lead to
sessions with the same entries. -/
theorem statements_are_local_and_commute (policy : UnitPricePolicy) :
    (∀ (left right : Session) (tokens : List String),
      (∀ name ∈ Statement.lineNames tokens, Session.AgreeOn name left right) →
        let onLeft := ({ session := left, policy } : Interpreter).execute tokens
        let onRight := ({ session := right, policy } : Interpreter).execute tokens
        onRight.1 = onLeft.1 ∧
          ∀ name ∈ Statement.lineNames tokens,
            Session.AgreeOn name onLeft.2.session onRight.2.session) ∧
    (∀ (session : Session) (tokens : List String),
      let after := (({ session, policy } : Interpreter).execute tokens).2.session
      after = session ∨
        ∃ name ∈ Statement.lineNames tokens, session.EntryWritten after name) ∧
    ∀ (session : Session) (first second : List String),
      (∀ name ∈ Statement.lineNames first, name ∉ Statement.lineNames second) →
        let afterFirst := ({ session, policy } : Interpreter).execute first
        let afterSecond := ({ session, policy } : Interpreter).execute second
        (afterFirst.2.execute second).1 = afterSecond.1 ∧
          (afterSecond.2.execute first).1 = afterFirst.1 ∧
          Session.SameEntries (afterFirst.2.execute second).2.session
            (afterSecond.2.execute first).2.session := by
  refine ⟨?_, ?_, ?_⟩
  · intro left right tokens hnames
    have halike : Alike ⟨left, policy⟩ ⟨right, policy⟩ (·.execute tokens) := by
      apply alike_execute
      · rfl
      · exact hnames
    refine ⟨halike.outcome, ?_⟩
    intro name hname
    exact halike.agree name (hnames name hname)
  · intro session tokens
    have hwrites := Interpreter.execute_writes_name ⟨session, policy⟩ tokens
    apply hwrites.imp_left
    intro hsame
    rw [hsame]
  · intro session first second hapart
    have hapart' : ∀ name ∈ Statement.lineNames second, name ∉ Statement.lineNames first :=
      fun name hsecond hfirst => hapart name hfirst hsecond
    refine ⟨(alike_behind ⟨session, policy⟩ hapart').outcome,
      (alike_behind ⟨session, policy⟩ hapart).outcome, ?_⟩
    apply Session.sameEntries_of_agreeOn
    intro word
    by_cases hword : word ∈ Statement.lineNames second
    · exact (agreeOn_swapped ⟨session, policy⟩ hapart' (hapart' word hword)).symm
    · exact agreeOn_swapped ⟨session, policy⟩ hapart hword

theorem redefinition_commutes_with_pricing :
    let session := (({} : Interpreter).after
      [.execute ["glob", "is", "I"], .execute ["pish", "is", "X"]]).session
    let first := ["glob", "is", "V"]
    let second := ["pish", "XX", "Gold", "is", "7", "Credits"]
    let afterFirst := ({ session } : Interpreter).execute first
    let afterSecond := ({ session } : Interpreter).execute second
    (∀ name ∈ Statement.lineNames first, name ∉ Statement.lineNames second) ∧
      (afterSecond.2.execute first).1 = .replied (.learned "Redefined glob as V (was I)") ∧
      (afterFirst.2.execute second).1 =
        .replied (.learned "Priced Gold at 7/30 Credits per unit") ∧
      Session.SameEntries (afterFirst.2.execute second).2.session
        (afterSecond.2.execute first).2.session := by
  intro session first second afterFirst afterSecond
  have hapart : ∀ name ∈ Statement.lineNames first, name ∉ Statement.lineNames second := by decide
  have hfirst : afterFirst.1 = .replied (.learned "Redefined glob as V (was I)") := by decide
  have hsecond : afterSecond.1 = .replied (.learned "Priced Gold at 7/30 Credits per unit") := by
    decide +kernel
  obtain ⟨_, _, hcommute⟩ := statements_are_local_and_commute .allowFractional
  obtain ⟨hbehind, hbefore, hsame⟩ := hcommute session first second hapart
  exact ⟨hapart, hbefore.trans hfirst, hbehind.trans hsecond, hsame⟩

end Interpreter
end RomanTrade
