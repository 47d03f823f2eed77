import Mathlib.Data.List.Count
import RomanTrade.Proofs.AmountResolution

/-!
# The writing rules of numerals

Validation collapses a numeral into runs and inspects up to three runs in a row, then neighbouring
symbols.  `Numeral.Regular` states the same rules about stretches of the numeral itself, none of
them longer than four symbols.
-/

namespace RomanTrade
namespace Numeral

theorem exists_runs_cons (symbol : Symbol) (rest : Numeral) :
    ∃ length more, runs (symbol :: rest) = (symbol, length + 1) :: more := by
  unfold runs
  split
  next next length more _ =>
    split
    next hsame => exact ⟨length, more, by rw [hsame]⟩
    next => exact ⟨0, (next, length) :: more, rfl⟩
  next => exact ⟨0, [], rfl⟩

/-- A symbol makes the first run of the rest longer or begins a run of its own. -/
theorem runs_cons_cases (symbol : Symbol) (rest : Numeral) :
    (∃ length more, rest.runs = (symbol, length + 1) :: more ∧
      runs (symbol :: rest) = (symbol, length + 2) :: more) ∨
    (∀ length more, rest.runs ≠ (symbol, length) :: more) ∧
      runs (symbol :: rest) = (symbol, 1) :: rest.runs := by
  cases rest with
  | nil => exact .inr ⟨by simp [runs], rfl⟩
  | cons next tail =>
      obtain ⟨length, more, hruns⟩ := exists_runs_cons next tail
      have hcons : runs (symbol :: next :: tail) =
          if symbol = next then (next, length + 1 + 1) :: more
          else (symbol, 1) :: (next, length + 1) :: more := by
        rw [runs, hruns]
      by_cases hsame : symbol = next
      · subst hsame
        exact .inl ⟨length, more, hruns, by rw [hcons, if_pos rfl]⟩
      · refine .inr ⟨?_, by rw [hcons, if_neg hsame, hruns]⟩
        intro other others hother
        rw [hruns, List.cons.injEq, Prod.mk.injEq] at hother
        exact hsame hother.1.1.symm

theorem replicate_prefix_iff {symbol : Symbol} {count : Nat} {numeral : Numeral} :
    List.replicate (count + 1) symbol <+: numeral ↔
      ∃ length more, numeral.runs = (symbol, length) :: more ∧ count + 1 ≤ length := by
  induction count generalizing numeral with
  | zero =>
      cases numeral with
      | nil => simp [runs]
      | cons first rest =>
          obtain ⟨length, more, hruns⟩ := exists_runs_cons first rest
          rw [hruns, List.replicate_one, List.cons_prefix_cons]
          constructor
          · rintro ⟨rfl, _⟩
            exact ⟨length + 1, more, rfl, by omega⟩
          · rintro ⟨_, _, hsame, _⟩
            cases hsame
            exact ⟨rfl, List.nil_prefix⟩
  | succ count ih =>
      cases numeral with
      | nil => simp [runs, List.replicate_succ]
      | cons first rest =>
          rw [List.replicate_succ, List.cons_prefix_cons, ih]
          rcases runs_cons_cases first rest with ⟨length, more, hrest, hruns⟩ | ⟨hrest, hruns⟩
          · rw [hrest, hruns]
            constructor
            · rintro ⟨rfl, _, _, hsame, hlong⟩
              cases hsame
              exact ⟨_, _, rfl, by omega⟩
            · rintro ⟨_, _, hsame, hlong⟩
              cases hsame
              exact ⟨rfl, _, _, rfl, by omega⟩
          · rw [hruns]
            constructor
            · rintro ⟨rfl, length, more, hmore, _⟩
              exact absurd hmore (hrest length more)
            · rintro ⟨_, _, hsame, hlong⟩
              cases hsame
              omega

theorem pair_prefix_iff {symbol between : Symbol} (hne : between ≠ symbol) {numeral : Numeral} :
    [between, symbol, symbol] <+: numeral ↔
      ∃ again more, numeral.runs = (between, 1) :: (symbol, again) :: more ∧ 2 ≤ again := by
  cases numeral with
  | nil => simp [runs]
  | cons first rest =>
      have htwice : List.replicate 2 symbol <+: rest ↔
          ∃ again more, runs rest = (symbol, again) :: more ∧ 2 ≤ again :=
        replicate_prefix_iff
      rw [List.cons_prefix_cons]
      change between = first ∧ List.replicate 2 symbol <+: rest ↔ _
      rw [htwice]
      rcases runs_cons_cases first rest with ⟨length, more, hrest, hruns⟩ | ⟨_, hruns⟩
      · rw [hrest, hruns]
        constructor
        · rintro ⟨rfl, _, _, hsame, _⟩
          cases hsame
          exact absurd rfl hne
        · rintro ⟨_, _, hsame, _⟩
          cases hsame
      · rw [hruns]
        constructor
        · rintro ⟨rfl, again, more, hmore, hlong⟩
          exact ⟨again, more, by rw [hmore], hlong⟩
        · rintro ⟨again, more, hsame, hlong⟩
          rw [List.cons.injEq, Prod.mk.injEq] at hsame
          exact ⟨hsame.1.1.symm, again, more, hsame.2, hlong⟩

/-- What follows a run of the symbol is one smaller symbol and then two or more of the symbol. -/
def Resumes (symbol : Symbol) (following : List (Symbol × Nat)) : Prop :=
  ∃ between again more, following = (between, 1) :: (symbol, again) :: more ∧
    between.value < symbol.value ∧ 2 ≤ again

theorem not_resumes_own_run (symbol : Symbol) (length : Nat) (more : List (Symbol × Nat)) :
    ¬ Resumes symbol ((symbol, length) :: more) := by
  rintro ⟨_, _, _, hsame, hsmaller, _⟩
  cases hsame
  omega

theorem exists_resumed_prefix_iff {symbol first : Symbol} {rest : Numeral} :
    (∃ between : Symbol, between.value < symbol.value ∧
      [symbol, between, symbol, symbol] <+: first :: rest) ↔
      first = symbol ∧ Resumes symbol rest.runs := by
  constructor
  · rintro ⟨between, hsmaller, hprefix⟩
    obtain ⟨rfl, hrest⟩ := List.cons_prefix_cons.mp hprefix
    have hne : between ≠ symbol := by
      rintro rfl
      omega
    obtain ⟨again, more, hruns, hlong⟩ := (pair_prefix_iff hne).mp hrest
    exact ⟨rfl, between, again, more, hruns, hsmaller, hlong⟩
  · rintro ⟨rfl, between, again, more, hruns, hsmaller, hlong⟩
    have hne : between ≠ first := by
      rintro rfl
      omega
    refine ⟨between, hsmaller, List.cons_prefix_cons.mpr ⟨rfl, ?_⟩⟩
    exact (pair_prefix_iff hne).mpr ⟨again, more, hruns, hlong⟩

theorem headRun?_cons_eq_none_iff {symbol first : Symbol} {length : Nat}
    {rest : List (Symbol × Nat)} :
    headRun? symbol ((first, length) :: rest) = none ↔
      (first = symbol → length < 4 ∧ ¬ Resumes symbol rest) := by
  unfold headRun?
  by_cases hfirst : first = symbol
  · by_cases hlong : 4 ≤ length
    · simp [hfirst, hlong, Nat.not_lt.mpr hlong]
    · simp only [hfirst, ne_eq, not_true_eq_false, if_false, hlong, forall_const]
      have hshort : length < 4 := by omega
      split
      next between resumed again more =>
        simp only [ite_eq_right_iff, reduceCtorEq, imp_false]
        constructor
        · intro hnever
          refine ⟨hshort, ?_⟩
          rintro ⟨_, _, _, hsame, hsmaller, hlong⟩
          cases hsame
          exact hnever ⟨hsmaller, rfl, hlong⟩
        · rintro ⟨_, hnever⟩ ⟨hsmaller, rfl, hlong⟩
          exact hnever ⟨between, again, more, rfl, hsmaller, hlong⟩
      next hother =>
        simp only [true_iff]
        refine ⟨hshort, ?_⟩
        rintro ⟨between, again, more, rfl, _⟩
        exact hother between symbol again more rfl
  · simp [hfirst]

theorem brokenRun?_runs_cons_eq_none_iff {symbol first : Symbol} {rest : Numeral} :
    brokenRun? symbol (runs (first :: rest)) = none ↔
      ¬ List.replicate 4 symbol <+: first :: rest ∧
      (∀ between : Symbol, between.value < symbol.value →
        ¬ [symbol, between, symbol, symbol] <+: first :: rest) ∧
      brokenRun? symbol rest.runs = none := by
  have hresumed : (∀ between : Symbol, between.value < symbol.value →
      ¬ [symbol, between, symbol, symbol] <+: first :: rest) ↔
        ¬ (first = symbol ∧ Resumes symbol rest.runs) := by
    rw [← exists_resumed_prefix_iff]
    simp
  have hlong : List.replicate 4 symbol <+: first :: rest ↔
      ∃ length more, runs (first :: rest) = (symbol, length) :: more ∧ 4 ≤ length :=
    replicate_prefix_iff
  rw [hresumed, hlong]
  rcases runs_cons_cases first rest with ⟨length, more, hrest, hruns⟩ | ⟨hrest, hruns⟩
  · -- The same run is inspected with and without its first symbol, and what follows it stays.
    rw [hrest, hruns]
    simp only [brokenRun?, Option.or_eq_none_iff, headRun?_cons_eq_none_iff, not_and,
      not_exists, Nat.not_le]
    by_cases hfirst : first = symbol
    · subst hfirst
      constructor
      · rintro ⟨hhead, hmore⟩
        obtain ⟨hshort, hnever⟩ := hhead rfl
        refine ⟨?_, ?_, ?_, hmore⟩
        · rintro _ _ hsame
          cases hsame
          exact hshort
        · rintro _
          exact not_resumes_own_run first (length + 1) more
        · rintro _
          exact ⟨by omega, hnever⟩
      · rintro ⟨hshort, _, hhead, hmore⟩
        exact ⟨fun _ => ⟨hshort _ _ rfl, (hhead rfl).2⟩, hmore⟩
    · simp [hfirst]
  · rw [hruns]
    simp [brokenRun?, headRun?_cons_eq_none_iff]

theorem brokenRun?_runs_eq_none_iff {symbol : Symbol} {numeral : Numeral} :
    brokenRun? symbol numeral.runs = none ↔
      ¬ List.replicate 4 symbol <:+: numeral ∧
      ∀ between : Symbol, between.value < symbol.value →
        ¬ [symbol, between, symbol, symbol] <:+: numeral := by
  induction numeral with
  | nil => simp [runs, brokenRun?]
  | cons first rest ih =>
      rw [brokenRun?_runs_cons_eq_none_iff, ih]
      simp only [List.infix_cons_iff, not_or]
      constructor
      · rintro ⟨hshort, hnever, hshorts, hnevers⟩
        exact ⟨⟨hshort, hshorts⟩, fun between hsmaller =>
          ⟨hnever between hsmaller, hnevers between hsmaller⟩⟩
      · rintro ⟨⟨hshort, hshorts⟩, hnevers⟩
        exact ⟨hshort, fun between hsmaller => (hnevers between hsmaller).1, hshorts,
          fun between hsmaller => (hnevers between hsmaller).2⟩

theorem pairFault?_eq_none_iff {before : Option Symbol} {left right : Symbol} :
    pairFault? before left right = none ↔
      (left.value < right.value →
        left.subtractsFrom right = true ∧
          ∀ symbol, before = some symbol → right.value ≤ symbol.value) := by
  unfold pairFault?
  by_cases hascends : left.value < right.value
  · cases hlegal : left.subtractsFrom right <;> cases before <;>
      simp [hascends, Nat.not_le.mpr hascends]
  · simp [hascends, Nat.not_lt.mp hascends]

theorem forall_pair_infix_cons_iff {Holds : Symbol → Symbol → Prop} {left right : Symbol}
    {rest : Numeral} :
    (∀ first second, [first, second] <:+: left :: right :: rest → Holds first second) ↔
      Holds left right ∧
        ∀ first second, [first, second] <:+: right :: rest → Holds first second := by
  constructor
  · intro h
    exact ⟨h left right ⟨[], rest, rfl⟩, fun first second hpair =>
      h first second (List.infix_cons hpair)⟩
  · rintro ⟨hhead, hrest⟩ first second hpair
    rcases List.infix_cons_iff.mp hpair with hprefix | hpair
    · obtain ⟨rfl, hsecond⟩ := List.cons_prefix_cons.mp hprefix
      obtain ⟨rfl, _⟩ := List.cons_prefix_cons.mp hsecond
      exact hhead
    · exact hrest first second hpair

theorem forall_triple_infix_cons_iff {Holds : Symbol → Symbol → Symbol → Prop}
    {before left right : Symbol} {rest : Numeral} :
    (∀ first second third, [first, second, third] <:+: before :: left :: right :: rest →
        Holds first second third) ↔
      Holds before left right ∧
        ∀ first second third, [first, second, third] <:+: left :: right :: rest →
          Holds first second third := by
  constructor
  · intro h
    exact ⟨h before left right ⟨[], rest, rfl⟩, fun first second third htriple =>
      h first second third (List.infix_cons htriple)⟩
  · rintro ⟨hhead, hrest⟩ first second third htriple
    rcases List.infix_cons_iff.mp htriple with hprefix | htriple
    · obtain ⟨rfl, hsecond⟩ := List.cons_prefix_cons.mp hprefix
      obtain ⟨rfl, hthird⟩ := List.cons_prefix_cons.mp hsecond
      obtain ⟨rfl, _⟩ := List.cons_prefix_cons.mp hthird
      exact hhead
    · exact hrest first second third htriple

theorem brokenPair?_eq_none_iff {before : Option Symbol} {numeral : Numeral} :
    brokenPair? before numeral = none ↔
      (∀ left right : Symbol, [left, right] <:+: numeral → left.value < right.value →
        left.subtractsFrom right = true) ∧
      ∀ first left right : Symbol, [first, left, right] <:+: before.toList ++ numeral →
        left.value < right.value → right.value ≤ first.value := by
  induction numeral generalizing before with
  | nil => cases before <;> simp [brokenPair?, List.infix_cons_iff]
  | cons left rest ih =>
      cases rest with
      | nil => cases before <;> simp [brokenPair?, List.infix_cons_iff]
      | cons right rest =>
          rw [brokenPair?, Option.or_eq_none_iff, pairFault?_eq_none_iff, ih,
            forall_pair_infix_cons_iff]
          -- Only the first pair has a different symbol before it than in the rest of the scan.
          cases before with
          | none =>
              simp only [Option.toList_none, Option.toList_some, List.nil_append,
                List.singleton_append]
              constructor
              · rintro ⟨hhead, hpairs, htriples⟩
                exact ⟨⟨fun hascends => (hhead hascends).1, hpairs⟩, htriples⟩
              · rintro ⟨⟨hhead, hpairs⟩, htriples⟩
                exact ⟨fun hascends => ⟨hhead hascends, by simp⟩, hpairs, htriples⟩
          | some symbol =>
              simp only [Option.toList_some, List.singleton_append, Option.some.injEq]
              rw [forall_triple_infix_cons_iff]
              constructor
              · rintro ⟨hhead, hpairs, htriples⟩
                exact ⟨⟨fun hascends => (hhead hascends).1, hpairs⟩,
                  fun hascends => (hhead hascends).2 symbol rfl, htriples⟩
              · rintro ⟨⟨hhead, hpairs⟩, htriple, htriples⟩
                refine ⟨fun hascends => ⟨hhead hascends, ?_⟩, hpairs, htriples⟩
                rintro _ rfl
                exact htriple hascends

theorem repeatedSingle?_eq_none_iff {numeral : Numeral} :
    repeatedSingle? numeral = none ↔
      ∀ symbol : Symbol, symbol.isSingle = true → numeral.count symbol ≤ 1 := by
  unfold repeatedSingle?
  simp [Symbol.mem_all]

/-- The writing rules as rules about the symbols of a numeral and about stretches of at most four of
them. -/
structure Regular (numeral : Numeral) : Prop where
  nonempty : numeral ≠ []
  single : ∀ symbol : Symbol, symbol.isSingle = true → numeral.count symbol ≤ 1
  shortRun : ∀ symbol : Symbol, symbol.isRepeatable = true →
    ¬ List.replicate 4 symbol <:+: numeral
  notResumed : ∀ symbol between : Symbol, symbol.isRepeatable = true →
    between.value < symbol.value → ¬ [symbol, between, symbol, symbol] <:+: numeral
  legalPair : ∀ left right : Symbol, [left, right] <:+: numeral → left.value < right.value →
    left.subtractsFrom right = true
  subtractedOnce : ∀ before left right : Symbol, [before, left, right] <:+: numeral →
    left.value < right.value → right.value ≤ before.value

theorem isValid_iff_regular {numeral : Numeral} : numeral.IsValid ↔ numeral.Regular := by
  cases numeral with
  | nil =>
      constructor
      · intro hvalid
        cases hvalid
      · intro hregular
        exact absurd rfl hregular.nonempty
  | cons first rest =>
      unfold IsValid violation?
      simp only [List.isEmpty_cons, Bool.false_eq_true, if_false, Option.or_eq_none_iff,
        repeatedSingle?_eq_none_iff, List.findSome?_eq_none_iff, List.mem_filter, Symbol.mem_all,
        true_and, brokenRun?_runs_eq_none_iff, brokenPair?_eq_none_iff, Option.toList_none,
        List.nil_append]
      constructor
      · rintro ⟨hsingle, hruns, hpairs, htriples⟩
        constructor
        · exact List.cons_ne_nil first rest
        · exact hsingle
        · exact fun symbol hrepeats => (hruns symbol hrepeats).1
        · exact fun symbol between hrepeats => (hruns symbol hrepeats).2 between
        · exact hpairs
        · exact htriples
      · intro hregular
        refine ⟨hregular.single, fun symbol hrepeats => ⟨hregular.shortRun symbol hrepeats, ?_⟩,
          hregular.legalPair, hregular.subtractedOnce⟩
        exact fun between => hregular.notResumed symbol between hrepeats

end Numeral
end RomanTrade
