import Mathlib.Order.WellFounded
import RomanTrade.Proofs.NumeralRules

/-!
# Runs by their place in a numeral

A run is a stretch of one symbol that cannot be made longer.  The rules about runs are rules about
its length and about what follows it, and the scan for a broken run finds the leftmost one.
-/

namespace RomanTrade
namespace Numeral

section Leftmost

variable {α β γ : Type} {start : α → Nat} {startLater : β → Nat} {Broken : α → Prop}
  {BrokenLater : β → Prop} {report : α → γ} {reportLater : β → γ} {reported : γ}

/-- No other broken site lies further to the left. -/
def IsLeftmost (start : α → Nat) (Broken : α → Prop) (site : α) : Prop :=
  Broken site ∧ ∀ other, Broken other → start site ≤ start other

theorem exists_isLeftmost (start : α → Nat) {site : α} (hbroken : Broken site) :
    ∃ leftmost, IsLeftmost start Broken leftmost := by
  obtain ⟨leftmost, hleftmost, hleast⟩ :=
    (InvImage.wf start Nat.lt_wfRel.wf).has_min {site | Broken site} ⟨site, hbroken⟩
  exact ⟨leftmost, hleftmost, fun other hother => Nat.not_lt.mp (hleast other hother)⟩

theorem isLeftmost_shift_iff {shift : β → α} {offset : Nat}
    (hstart : ∀ later, start (shift later) = offset + startLater later)
    (hbroken : ∀ later, Broken (shift later) ↔ BrokenLater later)
    (hshift : ∀ site, Broken site → ∃ later, site = shift later) (later : β) :
    IsLeftmost start Broken (shift later) ↔ IsLeftmost startLater BrokenLater later := by
  unfold IsLeftmost
  rw [hbroken]
  refine and_congr_right fun _ => ⟨fun hleast other hother => ?_, fun hleast site hsite => ?_⟩
  · have hle := hleast (shift other) ((hbroken other).mpr hother)
    rw [hstart, hstart] at hle
    exact Nat.le_of_add_le_add_left hle
  · obtain ⟨other, rfl⟩ := hshift site hsite
    rw [hstart, hstart]
    exact Nat.add_le_add_left (hleast other ((hbroken other).mp hsite)) offset

/-- A scan of the start and then of the rest reports the leftmost broken site, when the scan of the
rest does. -/
theorem or_reports_leftmost_iff {shift : β → α} {offset : Nat} {first later : Option γ}
    (hinjective : Function.Injective start)
    (hstart : ∀ inner, start (shift inner) = offset + startLater inner)
    (hbroken : ∀ inner, Broken (shift inner) ↔ BrokenLater inner)
    (hreport : ∀ inner, report (shift inner) = reportLater inner)
    (hfirst : (∃ site, Broken site ∧ start site = 0 ∧ first = some (report site)) ∨
      (first = none ∧ ∀ site, Broken site → ∃ inner, site = shift inner))
    (hlater : later = some reported ↔
      ∃ inner, IsLeftmost startLater BrokenLater inner ∧ reportLater inner = reported) :
    first.or later = some reported ↔
      ∃ site, IsLeftmost start Broken site ∧ report site = reported := by
  rcases hfirst with ⟨site, hsite, hzero, rfl⟩ | ⟨rfl, hshift⟩
  · rw [Option.some_or, Option.some.injEq]
    constructor
    · intro hsame
      refine ⟨site, ⟨hsite, fun other _ => ?_⟩, hsame⟩
      rw [hzero]
      exact Nat.zero_le _
    · rintro ⟨leftmost, ⟨_, hleast⟩, rfl⟩
      have hle := hleast site hsite
      rw [hzero, Nat.le_zero, ← hzero] at hle
      rw [hinjective hle]
  · rw [Option.none_or, hlater]
    have hleftmost := isLeftmost_shift_iff hstart hbroken hshift
    constructor
    · rintro ⟨inner, hinner, rfl⟩
      exact ⟨shift inner, (hleftmost inner).mpr hinner, hreport inner⟩
    · rintro ⟨site, hsite, rfl⟩
      obtain ⟨inner, rfl⟩ := hshift site hsite.1
      exact ⟨inner, (hleftmost inner).mp hsite, (hreport inner).symm⟩

theorem eq_none_iff_of_reports_leftmost {scan : Option γ}
    (hscan : ∀ reported, scan = some reported ↔
      ∃ site, IsLeftmost start Broken site ∧ report site = reported) :
    scan = none ↔ ¬ ∃ site, Broken site := by
  constructor
  · rintro hnone ⟨site, hbroken⟩
    obtain ⟨leftmost, hleftmost⟩ := exists_isLeftmost start hbroken
    have hsome := (hscan (report leftmost)).mpr ⟨leftmost, hleftmost, rfl⟩
    rw [hnone] at hsome
    cases hsome
  · intro hwhole
    rw [Option.eq_none_iff_forall_not_mem]
    intro reported hsome
    obtain ⟨site, hsite, _⟩ := (hscan reported).mp hsome
    exact hwhole ⟨site, hsite.1⟩

end Leftmost

@[ext]
structure Run (numeral : Numeral) (symbol : Symbol) where
  front : Numeral
  length : Nat
  back : Numeral
  nonempty : 0 < length
  here : numeral = front ++ (List.replicate length symbol ++ back)
  opens : front.getLast? ≠ some symbol
  closes : back.head? ≠ some symbol

namespace Run

variable {numeral : Numeral} {symbol : Symbol}

def IsTooLong (run : Run numeral symbol) : Prop :=
  4 ≤ run.length

/-- One smaller symbol follows and then at least two of the symbol again. -/
def IsResumed (run : Run numeral symbol) : Prop :=
  ∃ between : Symbol, between.value < symbol.value ∧ [between, symbol, symbol] <+: run.back

def IsBroken (run : Run numeral symbol) : Prop :=
  run.IsTooLong ∨ run.IsResumed

/-- A run that is too long is reported as such, whatever follows it. -/
def violation (run : Run numeral symbol) : Violation :=
  if 4 ≤ run.length then .runTooLong symbol else .runResumed symbol

theorem violation_of_isTooLong (run : Run numeral symbol) (hlong : run.IsTooLong) :
    run.violation = .runTooLong symbol :=
  if_pos hlong

theorem violation_of_not_isTooLong (run : Run numeral symbol) (hshort : ¬ run.IsTooLong) :
    run.violation = .runResumed symbol :=
  if_neg hshort

end Run

/-! ### Run by run -/

theorem runs_replicate_append {symbol : Symbol} {length : Nat} (hlength : 0 < length)
    {back : Numeral} (hback : back.head? ≠ some symbol) :
    runs (List.replicate length symbol ++ back) = (symbol, length) :: back.runs := by
  induction length with
  | zero => contradiction
  | succ length ih =>
      rw [List.replicate_succ, List.cons_append]
      cases length with
      | zero =>
          cases back with
          | nil => rfl
          | cons next more =>
              obtain ⟨count, others, hruns⟩ := exists_runs_cons next more
              have hne : symbol ≠ next := by
                rintro rfl
                exact hback rfl
              rw [List.replicate_zero, List.nil_append, runs, hruns]
              simp [hne]
      | succ length =>
          rw [runs, ih (Nat.succ_pos length)]
          simp

theorem head?_replicate_append {symbol : Symbol} {length : Nat} (hlength : 0 < length)
    {back : Numeral} : (List.replicate length symbol ++ back).head? = some symbol := by
  rw [List.head?_append, List.head?_replicate, if_neg hlength.ne', Option.some_or]

theorem exists_replicate_append (first : Symbol) (rest : Numeral) :
    ∃ length back, 0 < length ∧ back.head? ≠ some first ∧
      first :: rest = List.replicate length first ++ back := by
  induction rest with
  | nil => exact ⟨1, [], Nat.one_pos, by simp, rfl⟩
  | cons next more ih =>
      by_cases hsame : next = first
      · obtain ⟨length, back, _, hback, hrest⟩ := ih
        refine ⟨length + 1, back, Nat.succ_pos length, hback, ?_⟩
        rw [hsame, hrest, List.replicate_succ, List.cons_append]
      · refine ⟨1, next :: more, Nat.one_pos, ?_, rfl⟩
        simpa using hsame

theorem replicate_append_inj {symbol : Symbol} {first second : Nat} {back rest : Numeral}
    (hback : back.head? ≠ some symbol) (hrest : rest.head? ≠ some symbol)
    (hsame : List.replicate first symbol ++ back = List.replicate second symbol ++ rest) :
    first = second ∧ back = rest := by
  induction first generalizing second with
  | zero =>
      cases second with
      | zero => exact ⟨rfl, hsame⟩
      | succ second =>
          rw [List.replicate_zero, List.nil_append] at hsame
          rw [hsame, List.replicate_succ] at hback
          exact absurd rfl hback
  | succ first ih =>
      cases second with
      | zero =>
          rw [List.replicate_zero, List.nil_append] at hsame
          rw [← hsame, List.replicate_succ] at hrest
          exact absurd rfl hrest
      | succ second =>
          simp only [List.replicate_succ, List.cons_append, List.cons.injEq, true_and] at hsame
          obtain ⟨rfl, hback⟩ := ih hsame
          exact ⟨rfl, hback⟩

/-- A numeral is built by putting whole runs in front, each of another symbol than the next. -/
@[elab_as_elim]
theorem run_induction {motive : Numeral → Prop} (nil : motive [])
    (run : ∀ (first : Symbol) (length : Nat) (back : Numeral), 0 < length →
      back.head? ≠ some first → motive back → motive (List.replicate length first ++ back))
    (numeral : Numeral) : motive numeral := by
  induction hsize : numeral.length using Nat.strongRecOn generalizing numeral with
  | _ size ih =>
      cases numeral with
      | nil => exact nil
      | cons first rest =>
          obtain ⟨length, back, hlength, hback, hsplit⟩ := exists_replicate_append first rest
          rw [hsplit] at hsize ⊢
          rw [List.length_append, List.length_replicate] at hsize
          exact run first length back hlength hback (ih back.length (by omega) back rfl)

namespace Run

theorem numeral_ne_nil {numeral : Numeral} {symbol : Symbol} (run : Run numeral symbol) :
    numeral ≠ [] := by
  rintro rfl
  have hnil := run.here.symm
  rw [List.append_eq_nil_iff, List.append_eq_nil_iff, List.replicate_eq_nil_iff] at hnil
  exact absurd hnil.2.1 run.nonempty.ne'

theorem start_injective (numeral : Numeral) (symbol : Symbol) :
    Function.Injective fun run : Run numeral symbol => run.front.length := by
  intro run other hstart
  have hsame := run.here.symm.trans other.here
  obtain ⟨hfront, hrest⟩ := List.append_inj hsame hstart
  obtain ⟨hlength, hback⟩ := replicate_append_inj run.closes other.closes hrest
  ext1
  · exact hfront
  · exact hlength
  · exact hback

variable {symbol first : Symbol} {length : Nat} {back : Numeral}

def atHead (hlength : 0 < length) (hback : back.head? ≠ some symbol) :
    Run (List.replicate length symbol ++ back) symbol where
  front := []
  length := length
  back := back
  nonempty := hlength
  here := rfl
  opens := by simp
  closes := hback

/-- A run keeps its length and what follows it when another run is put in front. -/
def behind (hback : back.head? ≠ some first) (run : Run back symbol) :
    Run (List.replicate length first ++ back) symbol where
  front := List.replicate length first ++ run.front
  length := run.length
  back := run.back
  nonempty := run.nonempty
  here := by rw [List.append_assoc, ← run.here]
  opens := by
    intro hlast
    rw [List.getLast?_append, Option.or_eq_some_iff] at hlast
    rcases hlast with hfront | ⟨hnone, hfirst⟩
    · exact run.opens hfront
    · -- Then the run opens the rest of the numeral, with a symbol that the rest does not open with.
      have hempty : run.front = [] := List.getLast?_eq_none_iff.mp hnone
      have hsame : symbol = first :=
        List.eq_of_mem_replicate (List.mem_of_getLast? hfirst)
      apply hback
      rw [run.here, hempty, List.nil_append, head?_replicate_append run.nonempty, hsame]
  closes := run.closes

theorem exists_eq_behind (hback : back.head? ≠ some first)
    (run : Run (List.replicate length first ++ back) symbol) {front : Numeral}
    (hfront : run.front = List.replicate length first ++ front) :
    ∃ other, run = behind hback other := by
  have hrest : back = front ++ (List.replicate run.length symbol ++ run.back) := by
    rw [← List.append_cancel_left_eq (List.replicate length first), ← List.append_assoc,
      ← hfront, ← run.here]
  have hopens : front.getLast? ≠ some symbol := by
    intro hlast
    apply run.opens
    rw [hfront, List.getLast?_append, hlast, Option.some_or]
  refine ⟨⟨front, run.length, run.back, run.nonempty, hrest, hopens, run.closes⟩, ?_⟩
  ext1
  · exact hfront
  · rfl
  · rfl

theorem at_head_or_behind (hback : back.head? ≠ some first)
    (run : Run (List.replicate length first ++ back) symbol) :
    (symbol = first ∧ run.front = []) ∨ ∃ other, run = behind hback other := by
  rcases List.append_eq_append_iff.mp run.here with ⟨front, hfront, _⟩ | ⟨taken, hfirst, hrest⟩
  · exact .inr (exists_eq_behind hback run hfront)
  · obtain ⟨_, hfront, htaken⟩ := List.append_eq_replicate_iff.mp hfirst.symm
    cases htakenLength : taken.length with
    | zero =>
        -- The first run ends where this one begins.
        rw [List.length_eq_zero_iff.mp htakenLength, List.append_nil] at hfirst
        have hfront : run.front = List.replicate length first ++ [] :=
          hfirst.symm.trans (List.append_nil _).symm
        exact .inr (exists_eq_behind hback run hfront)
    | succ more =>
        left
        rw [htaken, htakenLength] at hrest
        have hsame : symbol = first := by
          have hheads := congrArg List.head? hrest
          rw [head?_replicate_append run.nonempty, head?_replicate_append (Nat.succ_pos more),
            Option.some.injEq] at hheads
          exact hheads
        refine ⟨hsame, ?_⟩
        by_contra hnonempty
        apply run.opens
        rw [hfront, List.getLast?_replicate, if_neg, hsame]
        simpa using hnonempty

end Run

/-! ### The scan for a broken run -/

theorem resumes_runs_iff {symbol : Symbol} {back : Numeral} :
    Resumes symbol back.runs ↔
      ∃ between : Symbol, between.value < symbol.value ∧ [between, symbol, symbol] <+: back := by
  have hne : ∀ between : Symbol, between.value < symbol.value → between ≠ symbol := by
    rintro _ hsmaller rfl
    exact absurd hsmaller (Nat.lt_irrefl _)
  constructor
  · rintro ⟨between, again, more, hruns, hsmaller, hlong⟩
    exact ⟨between, hsmaller,
      (pair_prefix_iff (hne between hsmaller)).mpr ⟨again, more, hruns, hlong⟩⟩
  · rintro ⟨between, hsmaller, hprefix⟩
    obtain ⟨again, more, hruns, hlong⟩ := (pair_prefix_iff (hne between hsmaller)).mp hprefix
    exact ⟨between, again, more, hruns, hsmaller, hlong⟩

theorem headRun?_of_too_long {symbol : Symbol} {length : Nat} (hlong : 4 ≤ length)
    (rest : List (Symbol × Nat)) :
    headRun? symbol ((symbol, length) :: rest) = some (.runTooLong symbol) := by
  simp [headRun?, hlong]

theorem headRun?_of_resumes {symbol : Symbol} {length : Nat} (hshort : ¬ 4 ≤ length)
    {rest : List (Symbol × Nat)} (hresumes : Resumes symbol rest) :
    headRun? symbol ((symbol, length) :: rest) = some (.runResumed symbol) := by
  obtain ⟨between, again, more, rfl, hsmaller, hagain⟩ := hresumes
  simp [headRun?, hshort, hsmaller, hagain]

theorem headRun?_of_isBroken {symbol : Symbol} {length : Nat} {back : Numeral}
    {hlength : 0 < length} {hback : back.head? ≠ some symbol}
    (hbroken : (Run.atHead hlength hback).IsBroken) :
    headRun? symbol ((symbol, length) :: back.runs) =
      some (Run.atHead hlength hback).violation := by
  by_cases hlong : (Run.atHead hlength hback).IsTooLong
  · rw [Run.violation_of_isTooLong _ hlong]
    exact headRun?_of_too_long hlong back.runs
  · have hresumes : Resumes symbol back.runs :=
      resumes_runs_iff.mpr (hbroken.resolve_left hlong)
    rw [Run.violation_of_not_isTooLong _ hlong]
    exact headRun?_of_resumes hlong hresumes

theorem headRun?_of_not_isBroken {symbol : Symbol} {length : Nat} {back : Numeral}
    {hlength : 0 < length} {hback : back.head? ≠ some symbol}
    (hwhole : ¬ (Run.atHead hlength hback).IsBroken) :
    headRun? symbol ((symbol, length) :: back.runs) = none := by
  rw [Run.IsBroken, not_or] at hwhole
  rw [headRun?_cons_eq_none_iff]
  intro _
  exact ⟨Nat.not_le.mp hwhole.1, fun hresumes => hwhole.2 (resumes_runs_iff.mp hresumes)⟩

/-- The first run is reported when it is a broken run of the symbol, and passed over otherwise. -/
theorem headRun?_runs_cases (symbol : Symbol) {first : Symbol} {length : Nat} {back : Numeral}
    (hlength : 0 < length) (hback : back.head? ≠ some first) :
    (∃ run : Run (List.replicate length first ++ back) symbol, run.IsBroken ∧
        run.front.length = 0 ∧
        headRun? symbol ((first, length) :: back.runs) = some run.violation) ∨
      (headRun? symbol ((first, length) :: back.runs) = none ∧
        ∀ run : Run (List.replicate length first ++ back) symbol, run.IsBroken →
          ∃ other, run = Run.behind hback other) := by
  by_cases hsame : first = symbol
  · subst hsame
    by_cases hbroken : (Run.atHead hlength hback).IsBroken
    · exact .inl ⟨Run.atHead hlength hback, hbroken, rfl, headRun?_of_isBroken hbroken⟩
    · right
      refine ⟨headRun?_of_not_isBroken hbroken, fun run hrun => ?_⟩
      rcases Run.at_head_or_behind hback run with ⟨_, hfront⟩ | hbehind
      · have hhead : run = Run.atHead hlength hback :=
          Run.start_injective _ _ (congrArg List.length hfront)
        rw [hhead] at hrun
        exact absurd hrun hbroken
      · exact hbehind
  · right
    refine ⟨headRun?_cons_eq_none_iff.mpr fun hfirst => absurd hfirst hsame, fun run _ => ?_⟩
    exact (Run.at_head_or_behind hback run).resolve_left fun hhead => hsame hhead.1.symm

theorem brokenRun?_eq_some_iff {symbol : Symbol} {numeral : Numeral} {violation : Violation} :
    brokenRun? symbol numeral.runs = some violation ↔
      ∃ run : Run numeral symbol,
        IsLeftmost (·.front.length) Run.IsBroken run ∧ run.violation = violation := by
  induction numeral using run_induction with
  | nil =>
      simp only [runs, brokenRun?, reduceCtorEq, false_iff, not_exists]
      intro run
      exact absurd rfl run.numeral_ne_nil
  | run first length back hlength hback ih =>
      rw [runs_replicate_append hlength hback, brokenRun?]
      exact or_reports_leftmost_iff (Run.start_injective _ symbol)
        (fun _ => List.length_append) (fun _ => Iff.rfl) (fun _ => rfl)
        (headRun?_runs_cases symbol hlength hback) ih

theorem brokenRun?_eq_none_iff {symbol : Symbol} {numeral : Numeral} :
    brokenRun? symbol numeral.runs = none ↔ ¬ ∃ run : Run numeral symbol, run.IsBroken :=
  eq_none_iff_of_reports_leftmost fun _ => brokenRun?_eq_some_iff

end Numeral
end RomanTrade
