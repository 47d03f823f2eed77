import RomanTrade.Proofs.Resumption
import RomanTrade.Proofs.WaitingInvariant

/-!
# The order of questions

A statement asks for the unknown tokens of its amount, each once, in the order in which they first
occur.  Every answer that is accepted takes the first of them away, so a statement with `k` unknown
tokens asks for at most `k` definitions.
-/

namespace RomanTrade

theorem nodup_eraseDups (words : List String) : words.eraseDups.Nodup := by
  match words with
  | [] => exact List.nodup_nil
  | word :: rest =>
      rw [List.eraseDups_cons, List.nodup_cons]
      refine ⟨?_, nodup_eraseDups _⟩
      rw [List.mem_eraseDups, List.mem_filter]
      simp
termination_by words.length
decreasing_by exact Nat.lt_succ_of_le (List.length_filter_le _ _)

namespace Alphabet

/-- A token that stands for no symbol and spells no numeral. -/
def Unknown (alphabet : Alphabet) (token : String) : Prop :=
  alphabet.contains token = false ∧ ∀ numeral : Numeral, numeral ≠ [] → token ≠ numeral.text

variable {alphabet : Alphabet} {token : String} {amount rest : List String}

theorem unknown_iff_unread : alphabet.Unknown token ↔ alphabet.reading? token = none := by
  rw [reading?_eq_none_iff, ← Numeral.ofText?_eq_none_iff, ← Numeral.ofText?_eq_some_nil_iff]
  refine and_congr_right fun _ => ?_
  constructor
  · intro hspells
    cases hread : Numeral.ofText? token with
    | none => exact .inr rfl
    | some numeral =>
        by_cases hempty : numeral = []
        · exact .inl (by rw [hempty])
        · exact absurd (Numeral.ofText?_eq_some_iff.mp hread) (hspells numeral hempty)
  · intro hunread numeral hne hspelled
    rw [Numeral.ofText?_eq_some_iff.mpr hspelled] at hunread
    simp [hne] at hunread

instance (alphabet : Alphabet) (token : String) : Decidable (alphabet.Unknown token) :=
  decidable_of_iff _ unknown_iff_unread.symm

/-- The unknown tokens of an amount, each at its first occurrence. -/
def unknowns (alphabet : Alphabet) (amount : List String) : List String :=
  (amount.filter fun token => alphabet.Unknown token).eraseDups

theorem exists_unknowns_of_missing (h : alphabet.resolve amount = .missing token) :
    ∃ rest, alphabet.unknowns amount = token :: rest := by
  have hfind := resolve_eq_missing_iff.mp h
  have hfilter : (amount.filter fun word => alphabet.Unknown word).head? = some token := by
    rw [List.head?_filter, ← hfind]
    congr 1
    funext word
    rw [Bool.eq_iff_iff]
    simp [unknown_iff_unread]
  obtain ⟨more, hmore⟩ := List.head?_eq_some_iff.mp hfilter
  exact ⟨_, by rw [unknowns, hmore, List.eraseDups_cons]⟩

theorem unknown_insert_iff {symbol : Symbol} {word : String} :
    Unknown (alphabet.insert token symbol) word ↔ word ≠ token ∧ alphabet.Unknown word := by
  unfold Unknown
  rw [← Bool.not_eq_true, Lexicon.contains_insert, not_or, Bool.not_eq_true, and_assoc]

/-- A symbol for the first unknown token leaves exactly the others unknown. -/
theorem unknowns_insert (h : alphabet.unknowns amount = token :: rest) (symbol : Symbol) :
    unknowns (alphabet.insert token symbol) amount = rest := by
  unfold unknowns at h ⊢
  have hfilter : (amount.filter fun word => Unknown (alphabet.insert token symbol) word) =
      (amount.filter fun word => alphabet.Unknown word).filter fun word => !word == token := by
    rw [List.filter_filter]
    congr 1
    funext word
    rw [Bool.eq_iff_iff]
    simp [unknown_insert_iff]
  rw [hfilter]
  cases hunknown : amount.filter fun word => alphabet.Unknown word with
  | nil => simp [hunknown] at h
  | cons first more =>
      rw [hunknown, List.eraseDups_cons] at h
      obtain ⟨rfl, hrest⟩ := List.cons.inj h
      rw [← hrest]
      simp

end Alphabet

namespace Interpreter

/-- The tokens that have to be defined before a line can be executed to its end. -/
def unknowns (interpreter : Interpreter) (tokens : List String) : List String :=
  match Statement.ofTokens tokens with
  | .ok statement => interpreter.session.alphabet.unknowns statement.amount
  | .error _ => []

variable {interpreter : Interpreter} {tokens rest : List String} {token : String}

theorem nodup_unknowns : (interpreter.unknowns tokens).Nodup := by
  unfold unknowns
  split
  · exact nodup_eraseDups _
  · exact List.nodup_nil

theorem exists_unknowns_of_stops
    (hstops : (interpreter.execute tokens).1 = .replied (.missing token)) :
    ∃ rest, interpreter.unknowns tokens = token :: rest := by
  obtain ⟨statement, hread, _, hmissing⟩ := exists_admitted_of_stops hstops
  simp only [unknowns, hread]
  exact Alphabet.exists_unknowns_of_missing (Session.evaluate_eq_missing_iff.mp hmissing).2

theorem unknowns_withSymbol (h : interpreter.unknowns tokens = token :: rest) (symbol : Symbol) :
    ({ interpreter with session := interpreter.session.withSymbol ⟨token, symbol⟩ } :
      Interpreter).unknowns tokens = rest := by
  unfold unknowns at h ⊢
  split at h
  next statement hread => exact Alphabet.unknowns_insert h symbol
  next => contradiction

end Interpreter

namespace Dialogue

/-- Whether a line is taken as the answer to the question that a dialogue waits for. -/
def accepts (dialogue : Dialogue) (input : String) : Bool :=
  match dialogue.stage with
  | .ready => false
  | .awaiting token _ =>
    !isExit (Text.trim input) &&
      match (dialogue.interpreter.supplyDefinition token (lineTokens input)).1 with
      | .replied _ => true
      | .refused _ | .zeroQuantity => false

variable {interpreter : Interpreter} {input token : String} {pending : List String}

theorem hear_of_accepts (haccepts : accepts ⟨interpreter, .awaiting token pending⟩ input = true) :
    ∃ symbol : Symbol, lineTokens input = [token, Keyword.is.text, symbol.text] ∧
      (hear ⟨interpreter, .awaiting token pending⟩ input).dialogue =
        (runStatement
          { interpreter with session := interpreter.session.withSymbol ⟨token, symbol⟩ }
          pending).dialogue := by
  have hhears := hear_hears ⟨interpreter, .awaiting token pending⟩ input
  generalize hear ⟨interpreter, .awaiting token pending⟩ input = heard at hhears
  cases hhears with
  | leave hexit => simp [accepts, hexit] at haccepts
  | reject _ hrefused => simp [accepts, hrefused] at haccepts
  | @accept _ _ _ symbol _ hanswer => exact ⟨symbol, hanswer, rfl⟩

theorem hear_of_not_accepts
    (hrejects : accepts ⟨interpreter, .awaiting token pending⟩ input = false) :
    (hear ⟨interpreter, .awaiting token pending⟩ input).dialogue =
      ⟨interpreter, .awaiting token pending⟩ := by
  have hhears := hear_hears ⟨interpreter, .awaiting token pending⟩ input
  generalize hear ⟨interpreter, .awaiting token pending⟩ input = heard at hhears
  cases hhears with
  | leave => rfl
  | reject => rfl
  | @accept _ _ _ symbol hstays hanswer hplain hunpriced =>
      have hlearned := interpreter.learnSymbol_of_free ⟨token, symbol⟩ hplain hunpriced
      simp [accepts, hstays, hanswer, Interpreter.supplyDefinition_definition, hlearned] at hrejects

/-- The tokens that a dialogue asks for while it hears lines, until the statement that it waits with
has come to its end.  A question that is asked again counts once. -/
def asked (dialogue : Dialogue) : List String → List String
  | [] =>
    match dialogue.stage with
    | .ready => []
    | .awaiting token _ => [token]
  | input :: rest =>
    match dialogue.stage with
    | .ready => []
    | .awaiting token _ =>
      if dialogue.accepts input then token :: (dialogue.hear input).dialogue.asked rest
      else (dialogue.hear input).dialogue.asked rest

theorem asked_of_ready {dialogue : Dialogue} (hready : dialogue.stage = .ready)
    (inputs : List String) : dialogue.asked inputs = [] := by
  cases inputs <;> simp [asked, hready]

/-- An accepted answer takes the first unknown token away; then the dialogue is ready, or it asks for
the next unknown token of the same statement. -/
theorem next_question {next : Dialogue}
    (hnext : (hear ⟨interpreter, .awaiting token pending⟩ input).dialogue = next)
    (hstops : (interpreter.execute pending).1 = .replied (.missing token))
    (haccepts : accepts ⟨interpreter, .awaiting token pending⟩ input = true) :
    interpreter.unknowns pending = token :: next.interpreter.unknowns pending ∧
      (next.stage = .ready ∨ ∃ other more, next.stage = .awaiting other pending ∧
        next.interpreter.unknowns pending = other :: more) := by
  obtain ⟨rest, hrest⟩ := Interpreter.exists_unknowns_of_stops hstops
  obtain ⟨statement, hread, _, hmissing⟩ := Interpreter.exists_admitted_of_stops hstops
  have hstatement := Statement.ne_definition_of_mem_amount
    (Session.mem_of_evaluate_eq_missing hmissing).1
  obtain ⟨symbol, _, hruns⟩ := hear_of_accepts haccepts
  rw [hnext] at hruns
  have hdefined := Interpreter.unknowns_withSymbol hrest symbol
  generalize ({ interpreter with session := interpreter.session.withSymbol ⟨token, symbol⟩ } :
    Interpreter) = defined at hdefined hruns
  have halphabet : next.interpreter.session.alphabet = defined.session.alphabet := by
    rw [hruns, interpreter_runStatement]
    exact defined.alphabet_execute hread hstatement
  have hunknowns : next.interpreter.unknowns pending = rest := by
    rw [← hdefined]
    simp only [Interpreter.unknowns, halphabet]
  rw [hunknowns]
  refine ⟨hrest, ?_⟩
  rcases stage_runStatement defined pending with hready | ⟨other, hagain, hasks⟩
  · exact .inl (hruns ▸ hready)
  · obtain ⟨more, hmore⟩ := Interpreter.exists_unknowns_of_stops (congrArg Prod.fst hagain)
    refine .inr ⟨other, more, ?_, hdefined.symm.trans hmore⟩
    rw [hruns, hasks]

theorem asked_prefix_unknowns {dialogue : Dialogue} (hsound : dialogue.Sound)
    (hwaits : dialogue.stage = .awaiting token pending) (inputs : List String) :
    dialogue.asked inputs <+: dialogue.interpreter.unknowns pending := by
  induction inputs generalizing dialogue token with
  | nil =>
      have hstops := congrArg Prod.fst (hsound token pending hwaits).2
      obtain ⟨rest, hrest⟩ := Interpreter.exists_unknowns_of_stops hstops
      simp only [asked, hwaits, hrest]
      exact List.prefix_append [token] rest
  | cons input later ih =>
      obtain ⟨interpreter, stage⟩ := dialogue
      obtain rfl : stage = .awaiting token pending := hwaits
      have hstops := congrArg Prod.fst (hsound token pending rfl).2
      have hkept := hear_sound hsound input
      cases haccepts : accepts ⟨interpreter, .awaiting token pending⟩ input with
      | false =>
          have hsame := hear_of_not_accepts haccepts
          simp only [asked, haccepts, hsame, Bool.false_eq_true, if_false]
          exact ih hsound rfl
      | true =>
          simp only [asked, haccepts, if_true]
          generalize hnext : (hear ⟨interpreter, .awaiting token pending⟩ input).dialogue = next
            at hkept
          obtain ⟨hfirst, hready | ⟨other, more, hasks, _⟩⟩ := next_question hnext hstops haccepts
          · rw [asked_of_ready hready, hfirst]
            exact List.prefix_append [token] _
          · rw [hfirst, List.cons_prefix_cons]
            exact ⟨rfl, ih hkept hasks⟩

theorem asked_after_prefix_unknowns {dialogue : Dialogue} (hready : dialogue.stage = .ready)
    (input : String) (later : List String) :
    (dialogue.hear input).dialogue.asked later <+:
      dialogue.interpreter.unknowns (lineTokens input) := by
  have hkept := hear_sound (sound_of_ready hready) input
  have hhears := dialogue.hear_hears input
  generalize dialogue.hear input = heard at hhears hkept
  cases hhears with
  | leave => simp only [asked_of_ready hready, List.nil_prefix]
  | skip => simp only [asked_of_ready hready, List.nil_prefix]
  | reject | accept => simp at hready
  | @run interpreter =>
      rcases stage_runStatement interpreter (lineTokens input) with hready | ⟨token, _, hasks⟩
      · simp only [asked_of_ready hready, List.nil_prefix]
      · rw [hasks] at hkept ⊢
        exact asked_prefix_unknowns hkept rfl later

/-- An accepted answer makes a dialogue ready or leads to a question for another token of the same
statement, and fewer tokens of its amount are unknown.  From the line on that makes the statement,
the tokens that are asked for are the first ones of the unknown tokens of its amount.  A dialogue is
ready as well after a statement that collapses. -/
theorem questions_follow_unknown_tokens {dialogue : Dialogue} (hreachable : dialogue.Reachable)
    (input : String) :
    let next := (dialogue.hear input).dialogue
    (∀ token pending, dialogue.stage = .awaiting token pending → dialogue.accepts input = true →
      (next.stage = .ready ∨ ∃ other, other ≠ token ∧ next.stage = .awaiting other pending) ∧
        (next.interpreter.unknowns pending).length <
          (dialogue.interpreter.unknowns pending).length) ∧
    (dialogue.stage = .ready → ∀ later,
      let unknowns := dialogue.interpreter.unknowns (lineTokens input)
      next.asked later <+: unknowns ∧ (next.asked later).Nodup ∧
        (next.asked later).length ≤ unknowns.length) := by
  intro next
  refine ⟨?_, ?_⟩
  · intro token pending hwaits haccepts
    have hstops := congrArg Prod.fst (sound_of_reachable hreachable token pending hwaits).2
    have hnext : (dialogue.hear input).dialogue = next := rfl
    clear_value next
    obtain ⟨interpreter, stage⟩ := dialogue
    obtain rfl : stage = .awaiting token pending := hwaits
    obtain ⟨hfirst, hstage⟩ := next_question hnext hstops haccepts
    have hnodup : (interpreter.unknowns pending).Nodup := Interpreter.nodup_unknowns
    rw [hfirst] at hnodup ⊢
    refine ⟨?_, Nat.lt_succ_self _⟩
    rcases hstage with hready | ⟨other, more, hasks, hmore⟩
    · exact .inl hready
    · refine .inr ⟨other, ?_, hasks⟩
      rw [hmore] at hnodup
      rintro rfl
      simp at hnodup
  · intro hready later unknowns
    have hstarts : next.asked later <+: unknowns :=
      asked_after_prefix_unknowns hready input later
    exact ⟨hstarts, Interpreter.nodup_unknowns.sublist hstarts.sublist, hstarts.length_le⟩

theorem blub_is_asked_for_before_zorg :
    let dialogue := ((fresh .allowFractional).hearAll ["how much is blub zorg blub ?"]).dialogue
    let next := (dialogue.hear "blub is X").dialogue
    dialogue.asked ["blub is X", "zorg is I"] = ["blub", "zorg"] ∧
      next.stage = .awaiting "zorg" ["how", "much", "is", "blub", "zorg", "blub", "?"] ∧
      (next.interpreter.unknowns ["how", "much", "is", "blub", "zorg", "blub", "?"]).length <
        (dialogue.interpreter.unknowns ["how", "much", "is", "blub", "zorg", "blub", "?"]).length :=
  have hwaits : ((fresh .allowFractional).hearAll ["how much is blub zorg blub ?"]).dialogue.stage =
      .awaiting "blub" ["how", "much", "is", "blub", "zorg", "blub", "?"] := by decide
  have haccepts : ((fresh .allowFractional).hearAll
      ["how much is blub zorg blub ?"]).dialogue.accepts "blub is X" = true := by decide
  have hfalls := (questions_follow_unknown_tokens ⟨_, _, rfl⟩ "blub is X").1 _ _ hwaits haccepts
  ⟨by decide, by decide, hfalls.2⟩

end Dialogue
end RomanTrade
