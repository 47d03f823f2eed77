import RomanTrade.Proofs.NumeralRuns

/-!
# The first broken rule of a numeral

Three scans look for a violation, one after the other: over the single symbols, over the repeatable
symbols and the runs of each, and over the ascending pairs.  `Numeral.FirstFault` says of a numeral
and of a violation that it is the one those scans should name.
-/

namespace RomanTrade
namespace Numeral

/-! ### Ascending pairs -/

/-- Two neighbouring symbols of which the right one is larger. -/
@[ext]
structure Ascent (numeral : Numeral) where
  front : Numeral
  left : Symbol
  right : Symbol
  back : Numeral
  here : numeral = front ++ left :: right :: back
  ascends : left.value < right.value

namespace Ascent

variable {numeral : Numeral}

def IsLegal (ascent : Ascent numeral) : Prop :=
  ascent.left.subtractsFrom ascent.right = true

/-- A symbol smaller than the right one stands before the pair, where `before` stands in front of
the whole sequence. -/
def IsPreceded (before : Option Symbol) (ascent : Ascent numeral) : Prop :=
  ∃ symbol, ascent.front.getLast?.or before = some symbol ∧ symbol.value < ascent.right.value

def IsBroken (before : Option Symbol) (ascent : Ascent numeral) : Prop :=
  ¬ ascent.IsLegal ∨ ascent.IsPreceded before

def violation (ascent : Ascent numeral) : Violation :=
  if ascent.left.subtractsFrom ascent.right then .doubleSubtraction ascent.right
  else .illegalSubtraction ascent.left ascent.right

theorem violation_of_isLegal (ascent : Ascent numeral) (hlegal : ascent.IsLegal) :
    ascent.violation = .doubleSubtraction ascent.right :=
  if_pos hlegal

theorem violation_of_not_isLegal (ascent : Ascent numeral) (hillegal : ¬ ascent.IsLegal) :
    ascent.violation = .illegalSubtraction ascent.left ascent.right :=
  if_neg hillegal

theorem two_le_length (ascent : Ascent numeral) : 2 ≤ numeral.length := by
  rw [ascent.here, List.length_append, List.length_cons, List.length_cons]
  omega

theorem numeral_ne_nil (ascent : Ascent numeral) : numeral ≠ [] :=
  List.ne_nil_of_length_pos (Nat.lt_of_lt_of_le Nat.two_pos ascent.two_le_length)

theorem start_injective (numeral : Numeral) :
    Function.Injective fun ascent : Ascent numeral => ascent.front.length := by
  intro ascent other hstart
  have hsame := ascent.here.symm.trans other.here
  obtain ⟨hfront, hrest⟩ := List.append_inj hsame hstart
  rw [List.cons.injEq, List.cons.injEq] at hrest
  ext1
  · exact hfront
  · exact hrest.1
  · exact hrest.2.1
  · exact hrest.2.2

variable {before : Option Symbol} {first : Symbol} {rest : Numeral}

def atHead {left right : Symbol} (hascends : left.value < right.value) (back : Numeral) :
    Ascent (left :: right :: back) where
  front := []
  left := left
  right := right
  back := back
  here := rfl
  ascends := hascends

def behind (first : Symbol) (ascent : Ascent rest) : Ascent (first :: rest) where
  front := first :: ascent.front
  left := ascent.left
  right := ascent.right
  back := ascent.back
  here := by rw [List.cons_append, ← ascent.here]
  ascends := ascent.ascends

theorem isBroken_behind_iff (ascent : Ascent rest) :
    (behind first ascent).IsBroken before ↔ ascent.IsBroken (some first) := by
  have hbefore : (first :: ascent.front).getLast?.or before =
      ascent.front.getLast?.or (some first) := by
    rw [List.getLast?_cons]
    cases ascent.front.getLast? <;> rfl
  unfold IsBroken IsPreceded
  rw [behind, hbefore]
  rfl

theorem front_eq_nil_or_behind (ascent : Ascent (first :: rest)) :
    ascent.front = [] ∨ ∃ other, ascent = behind first other := by
  cases hfront : ascent.front with
  | nil => exact .inl rfl
  | cons head front =>
      right
      have hhere := ascent.here
      rw [hfront, List.cons_append, List.cons.injEq] at hhere
      refine ⟨⟨front, ascent.left, ascent.right, ascent.back, hhere.2, ascent.ascends⟩, ?_⟩
      ext1
      · exact hfront.trans (congrArg (· :: front) hhere.1.symm)
      · rfl
      · rfl
      · rfl

end Ascent

theorem any_smaller_iff {before : Option Symbol} {larger : Symbol} :
    (before.any fun symbol => symbol.value < larger.value) = true ↔
      ∃ symbol, before = some symbol ∧ symbol.value < larger.value := by
  cases before <;> simp

theorem pairFault?_of_isBroken {before : Option Symbol} {left right : Symbol}
    {hascends : left.value < right.value} {back : Numeral}
    (hbroken : (Ascent.atHead hascends back).IsBroken before) :
    pairFault? before left right = some (Ascent.atHead hascends back).violation := by
  rw [pairFault?, if_neg (Nat.not_le.mpr hascends), Ascent.violation, Ascent.atHead]
  cases hlegal : left.subtractsFrom right with
  | false => rfl
  | true =>
      have hpreceded := hbroken.resolve_left (not_not_intro hlegal)
      have hany : (before.any fun symbol => symbol.value < right.value) = true :=
        any_smaller_iff.mpr hpreceded
      simp [hany]

theorem pairFault?_of_not_isBroken {before : Option Symbol} {left right : Symbol}
    {hascends : left.value < right.value} {back : Numeral}
    (hwhole : ¬ (Ascent.atHead hascends back).IsBroken before) :
    pairFault? before left right = none := by
  rw [Ascent.IsBroken, not_or, not_not] at hwhole
  rw [pairFault?_eq_none_iff]
  intro _
  refine ⟨hwhole.1, fun symbol hbefore => Nat.not_lt.mp fun hsmaller => ?_⟩
  exact hwhole.2 ⟨symbol, hbefore, hsmaller⟩

theorem pairFault?_cases (before : Option Symbol) (left right : Symbol) (back : Numeral) :
    (∃ ascent : Ascent (left :: right :: back), ascent.IsBroken before ∧
        ascent.front.length = 0 ∧ pairFault? before left right = some ascent.violation) ∨
      (pairFault? before left right = none ∧
        ∀ ascent : Ascent (left :: right :: back), ascent.IsBroken before →
          ∃ other, ascent = Ascent.behind left other) := by
  by_cases hascends : left.value < right.value
  · by_cases hbroken : (Ascent.atHead hascends back).IsBroken before
    · exact .inl ⟨Ascent.atHead hascends back, hbroken, rfl, pairFault?_of_isBroken hbroken⟩
    · right
      refine ⟨pairFault?_of_not_isBroken hbroken, fun ascent hascent => ?_⟩
      refine ascent.front_eq_nil_or_behind.resolve_left fun hfront => ?_
      have hhead : ascent = Ascent.atHead hascends back :=
        Ascent.start_injective _ (congrArg List.length hfront)
      rw [hhead] at hascent
      exact hbroken hascent
  · right
    refine ⟨pairFault?_eq_none_iff.mpr fun hless => absurd hless hascends, fun ascent _ => ?_⟩
    refine ascent.front_eq_nil_or_behind.resolve_left fun hfront => hascends ?_
    have hhere := ascent.here
    rw [hfront, List.nil_append, List.cons.injEq, List.cons.injEq] at hhere
    calc left.value
      _ = ascent.left.value := congrArg Symbol.value hhere.1
      _ < ascent.right.value := ascent.ascends
      _ = right.value := congrArg Symbol.value hhere.2.1.symm

theorem brokenPair?_eq_some_iff {before : Option Symbol} {numeral : Numeral}
    {violation : Violation} :
    brokenPair? before numeral = some violation ↔
      ∃ ascent : Ascent numeral,
        IsLeftmost (·.front.length) (Ascent.IsBroken before) ascent ∧
          ascent.violation = violation := by
  induction numeral generalizing before with
  | nil =>
      simp only [brokenPair?, reduceCtorEq, false_iff, not_exists]
      intro ascent
      exact absurd ascent.two_le_length (by decide)
  | cons left rest ih =>
      cases rest with
      | nil =>
          simp only [brokenPair?, reduceCtorEq, false_iff, not_exists]
          intro ascent
          exact absurd ascent.two_le_length (Nat.not_succ_le_self 1)
      | cons right back =>
          rw [brokenPair?]
          exact or_reports_leftmost_iff (Ascent.start_injective _) (fun _ => Nat.add_comm _ 1)
            Ascent.isBroken_behind_iff (fun _ => rfl) (pairFault?_cases before left right back) ih

theorem brokenPair?_eq_none_iff_ascents {before : Option Symbol} {numeral : Numeral} :
    brokenPair? before numeral = none ↔
      ¬ ∃ ascent : Ascent numeral, ascent.IsBroken before :=
  eq_none_iff_of_reports_leftmost fun _ => brokenPair?_eq_some_iff

/-! ### The order of the scans -/

/-- The symbol is the first of the order that has the property. -/
def FirstIn (order : List Symbol) (Has : Symbol → Prop) (symbol : Symbol) : Prop :=
  ∃ earlier later, order = earlier ++ symbol :: later ∧ Has symbol ∧
    ∀ other ∈ earlier, ¬ Has other

def Repeats (numeral : Numeral) (symbol : Symbol) : Prop :=
  2 ≤ numeral.count symbol

def HasBrokenRun (numeral : Numeral) (symbol : Symbol) : Prop :=
  ∃ run : Run numeral symbol, run.IsBroken

/-- The violation is the one to be named: of the rules the numeral breaks it breaks this one first,
and at this symbol, run or pair. -/
inductive FirstFault (numeral : Numeral) : Violation → Prop where
  | empty (hempty : numeral = []) : FirstFault numeral .empty
  | repeatedSingle {symbol : Symbol} (hfirst : FirstIn [.V, .L, .D] numeral.Repeats symbol) :
      FirstFault numeral (.repeatedSingle symbol)
  | runTooLong {symbol : Symbol} (hsingle : ∀ other ∈ [.V, .L, .D], ¬ numeral.Repeats other)
      (hfirst : FirstIn [.I, .X, .C, .M] numeral.HasBrokenRun symbol) (run : Run numeral symbol)
      (hrun : IsLeftmost (·.front.length) Run.IsBroken run) (hlong : run.IsTooLong) :
      FirstFault numeral (.runTooLong symbol)
  | runResumed {symbol : Symbol} (hsingle : ∀ other ∈ [.V, .L, .D], ¬ numeral.Repeats other)
      (hfirst : FirstIn [.I, .X, .C, .M] numeral.HasBrokenRun symbol) (run : Run numeral symbol)
      (hrun : IsLeftmost (·.front.length) Run.IsBroken run) (hshort : ¬ run.IsTooLong) :
      FirstFault numeral (.runResumed symbol)
  | illegalSubtraction (hsingle : ∀ other ∈ [.V, .L, .D], ¬ numeral.Repeats other)
      (hruns : ∀ other ∈ [.I, .X, .C, .M], ¬ numeral.HasBrokenRun other)
      (ascent : Ascent numeral)
      (hascent : IsLeftmost (·.front.length) (Ascent.IsBroken none) ascent)
      (hillegal : ¬ ascent.IsLegal) :
      FirstFault numeral (.illegalSubtraction ascent.left ascent.right)
  | doubleSubtraction (hsingle : ∀ other ∈ [.V, .L, .D], ¬ numeral.Repeats other)
      (hruns : ∀ other ∈ [.I, .X, .C, .M], ¬ numeral.HasBrokenRun other)
      (ascent : Ascent numeral)
      (hascent : IsLeftmost (·.front.length) (Ascent.IsBroken none) ascent)
      (hlegal : ascent.IsLegal) :
      FirstFault numeral (.doubleSubtraction ascent.right)

section Scans

variable {numeral : Numeral} {violation : Violation}

theorem repeatedSingle?_eq_find? (numeral : Numeral) :
    repeatedSingle? numeral =
      ([Symbol.V, .L, .D].find? fun symbol => 1 < numeral.count symbol).map
        Violation.repeatedSingle := by
  have hsingles : [Symbol.V, .L, .D] = Symbol.all.filter Symbol.isSingle := rfl
  rw [hsingles, List.find?_filter]
  simp [repeatedSingle?]

theorem find?_eq_some_iff_firstIn {order : List Symbol} {Has : Symbol → Prop}
    {has : Symbol → Bool} (hhas : ∀ symbol, has symbol = true ↔ Has symbol) {symbol : Symbol} :
    order.find? has = some symbol ↔ FirstIn order Has symbol := by
  simp only [List.find?_eq_some_iff_append, FirstIn, Bool.not_eq_true', ← Bool.not_eq_true, hhas]
  constructor
  · rintro ⟨hsymbol, earlier, later, horder, hearlier⟩
    exact ⟨earlier, later, horder, hsymbol, hearlier⟩
  · rintro ⟨earlier, later, horder, hsymbol, hearlier⟩
    exact ⟨hsymbol, earlier, later, horder, hearlier⟩

theorem repeatedSingle?_eq_some_iff :
    repeatedSingle? numeral = some violation ↔
      ∃ symbol, FirstIn [.V, .L, .D] numeral.Repeats symbol ∧
        .repeatedSingle symbol = violation := by
  rw [repeatedSingle?_eq_find?, Option.map_eq_some_iff]
  refine exists_congr fun symbol => and_congr_left fun _ => ?_
  exact find?_eq_some_iff_firstIn fun _ => decide_eq_true_iff

theorem repeatedSingle?_eq_none_iff_repeats :
    repeatedSingle? numeral = none ↔ ∀ symbol ∈ [.V, .L, .D], ¬ numeral.Repeats symbol := by
  rw [repeatedSingle?_eq_find?, Option.map_eq_none_iff, List.find?_eq_none]
  exact forall₂_congr fun _ _ => not_congr decide_eq_true_iff

theorem firstBrokenRun?_eq_some_iff :
    ((Symbol.all.filter Symbol.isRepeatable).findSome? fun symbol =>
        brokenRun? symbol numeral.runs) = some violation ↔
      ∃ symbol, FirstIn [.I, .X, .C, .M] numeral.HasBrokenRun symbol ∧
        ∃ run : Run numeral symbol,
          IsLeftmost (·.front.length) Run.IsBroken run ∧ run.violation = violation := by
  have hrepeatable : Symbol.all.filter Symbol.isRepeatable = [.I, .X, .C, .M] := rfl
  rw [hrepeatable, List.findSome?_eq_some_iff]
  simp only [brokenRun?_eq_none_iff, brokenRun?_eq_some_iff]
  constructor
  · rintro ⟨earlier, symbol, later, horder, ⟨run, hrun, hviolation⟩, hearlier⟩
    exact ⟨symbol, ⟨earlier, later, horder, ⟨run, hrun.1⟩, hearlier⟩, run, hrun, hviolation⟩
  · rintro ⟨symbol, ⟨earlier, later, horder, _, hearlier⟩, hrun⟩
    exact ⟨earlier, symbol, later, horder, hrun, hearlier⟩

theorem firstBrokenRun?_eq_none_iff :
    ((Symbol.all.filter Symbol.isRepeatable).findSome? fun symbol =>
        brokenRun? symbol numeral.runs) = none ↔
      ∀ symbol ∈ [.I, .X, .C, .M], ¬ numeral.HasBrokenRun symbol := by
  have hrepeatable : Symbol.all.filter Symbol.isRepeatable = [.I, .X, .C, .M] := rfl
  rw [hrepeatable, List.findSome?_eq_none_iff]
  simp only [brokenRun?_eq_none_iff]
  rfl

theorem violation?_eq_some_iff (hnonempty : numeral ≠ []) :
    numeral.violation? = some violation ↔
      (∃ symbol, FirstIn [.V, .L, .D] numeral.Repeats symbol ∧
        .repeatedSingle symbol = violation) ∨
      (∀ symbol ∈ [.V, .L, .D], ¬ numeral.Repeats symbol) ∧
        ((∃ symbol, FirstIn [.I, .X, .C, .M] numeral.HasBrokenRun symbol ∧
          ∃ run : Run numeral symbol,
            IsLeftmost (·.front.length) Run.IsBroken run ∧ run.violation = violation) ∨
        (∀ symbol ∈ [.I, .X, .C, .M], ¬ numeral.HasBrokenRun symbol) ∧
          ∃ ascent : Ascent numeral,
            IsLeftmost (·.front.length) (Ascent.IsBroken none) ascent ∧
              ascent.violation = violation) := by
  rw [violation?, if_neg (by simpa using hnonempty), Option.or_eq_some_iff, Option.or_eq_some_iff,
    repeatedSingle?_eq_some_iff, repeatedSingle?_eq_none_iff_repeats, firstBrokenRun?_eq_some_iff,
    firstBrokenRun?_eq_none_iff, brokenPair?_eq_some_iff]

end Scans

theorem FirstFault.numeral_ne_nil {numeral : Numeral} {violation : Violation}
    (hfault : numeral.FirstFault violation) (hviolation : violation ≠ .empty) : numeral ≠ [] := by
  cases hfault with
  | empty _ => exact absurd rfl hviolation
  | repeatedSingle hfirst =>
      obtain ⟨_, _, _, htwice, _⟩ := hfirst
      rintro rfl
      exact absurd htwice (by simp [Repeats])
  | runTooLong _ _ run _ _ => exact run.numeral_ne_nil
  | runResumed _ _ run _ _ => exact run.numeral_ne_nil
  | illegalSubtraction _ _ ascent _ _ => exact ascent.numeral_ne_nil
  | doubleSubtraction _ _ ascent _ _ => exact ascent.numeral_ne_nil

theorem firstFault_of_violation?_eq_some {numeral : Numeral} {violation : Violation}
    (hfound : numeral.violation? = some violation) : numeral.FirstFault violation := by
  by_cases hempty : numeral = []
  · rw [hempty] at hfound
    cases hfound
    exact .empty hempty
  · rcases (violation?_eq_some_iff hempty).mp hfound with
      ⟨symbol, hfirst, rfl⟩ |
      ⟨hsingle, ⟨symbol, hfirst, run, hrun, rfl⟩ | ⟨hruns, ascent, hascent, rfl⟩⟩
    · exact .repeatedSingle hfirst
    · by_cases hlong : run.IsTooLong
      · rw [run.violation_of_isTooLong hlong]
        exact .runTooLong hsingle hfirst run hrun hlong
      · rw [run.violation_of_not_isTooLong hlong]
        exact .runResumed hsingle hfirst run hrun hlong
    · by_cases hlegal : ascent.IsLegal
      · rw [ascent.violation_of_isLegal hlegal]
        exact .doubleSubtraction hsingle hruns ascent hascent hlegal
      · rw [ascent.violation_of_not_isLegal hlegal]
        exact .illegalSubtraction hsingle hruns ascent hascent hlegal

theorem FirstFault.violation?_eq_some {numeral : Numeral} {violation : Violation}
    (hfault : numeral.FirstFault violation) : numeral.violation? = some violation := by
  by_cases hviolation : violation = .empty
  · subst hviolation
    cases hfault with
    | empty hempty => rw [hempty]; rfl
  · rw [violation?_eq_some_iff (hfault.numeral_ne_nil hviolation)]
    cases hfault with
    | empty _ => exact absurd rfl hviolation
    | repeatedSingle hfirst => exact .inl ⟨_, hfirst, rfl⟩
    | runTooLong hsingle hfirst run hrun hlong =>
        have hviolation := run.violation_of_isTooLong hlong
        exact .inr ⟨hsingle, .inl ⟨_, hfirst, run, hrun, hviolation⟩⟩
    | runResumed hsingle hfirst run hrun hshort =>
        have hviolation := run.violation_of_not_isTooLong hshort
        exact .inr ⟨hsingle, .inl ⟨_, hfirst, run, hrun, hviolation⟩⟩
    | illegalSubtraction hsingle hruns ascent hascent hillegal =>
        have hviolation := ascent.violation_of_not_isLegal hillegal
        exact .inr ⟨hsingle, .inr ⟨hruns, ascent, hascent, hviolation⟩⟩
    | doubleSubtraction hsingle hruns ascent hascent hlegal =>
        have hviolation := ascent.violation_of_isLegal hlegal
        exact .inr ⟨hsingle, .inr ⟨hruns, ascent, hascent, hviolation⟩⟩

theorem isValid_iff_unbroken {numeral : Numeral} :
    numeral.IsValid ↔ numeral ≠ [] ∧
      (∀ symbol ∈ [.V, .L, .D], ¬ numeral.Repeats symbol) ∧
      (∀ symbol ∈ [.I, .X, .C, .M], ¬ numeral.HasBrokenRun symbol) ∧
      ¬ ∃ ascent : Ascent numeral, ascent.IsBroken none := by
  by_cases hempty : numeral = []
  · simp [hempty, IsValid, violation?]
  · rw [IsValid, violation?, if_neg (by simpa using hempty), Option.or_eq_none_iff,
      Option.or_eq_none_iff, repeatedSingle?_eq_none_iff_repeats, firstBrokenRun?_eq_none_iff,
      brokenPair?_eq_none_iff_ascents]
    exact (and_iff_right hempty).symm

theorem validate_eq_error_iff {numeral : Numeral} {violation : Violation} :
    numeral.validate = .error violation ↔ numeral.violation? = some violation := by
  unfold validate
  cases numeral.violation? <;> simp

theorem validate_eq_ok_iff {numeral : Numeral} : numeral.validate = .ok () ↔ numeral.IsValid := by
  unfold validate IsValid
  cases numeral.violation? <;> simp

/-- Validation names the first broken rule: the numeral is empty; else one of V, L and D repeats;
else a run of one of I, X, C and M is too long or resumed; else an ascending pair is illegal or
follows a symbol that is smaller too. -/
theorem validation_names_first_broken_rule (numeral : Numeral) :
    (∀ violation, numeral.validate = .error violation ↔ numeral.FirstFault violation) ∧
    (numeral.validate = .ok () ↔ numeral ≠ [] ∧
      (∀ symbol ∈ [.V, .L, .D], ¬ numeral.Repeats symbol) ∧
      (∀ symbol ∈ [.I, .X, .C, .M], ¬ numeral.HasBrokenRun symbol) ∧
      ¬ ∃ ascent : Ascent numeral, ascent.IsBroken none) ∧
    ∀ c, numeral.validate ≠ .error (.unknownCharacter c) := by
  have herror : ∀ violation,
      numeral.validate = .error violation ↔ numeral.FirstFault violation := by
    intro violation
    rw [validate_eq_error_iff]
    exact ⟨firstFault_of_violation?_eq_some, FirstFault.violation?_eq_some⟩
  refine ⟨herror, validate_eq_ok_iff.trans isValid_iff_unbroken, fun c hunknown => ?_⟩
  cases (herror _).mp hunknown

-- Before the four I at the end stands a run of X that is resumed, but I comes first in the order.
example : validate [.X, .I, .X, .X, .I, .I, .I, .I] = .error (.runTooLong .I) := rfl

end Numeral
end RomanTrade
