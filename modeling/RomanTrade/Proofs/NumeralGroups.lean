import RomanTrade.Proofs.NumeralTotal

/-!
# The groups of a numeral

A valid numeral is read from left to right as symbols that are added and pairs in which one symbol
is subtracted from the next.  There is one such reading, its groups sum to the total, and between
two symbols that do not ascend the numeral may be cut.
-/

namespace RomanTrade

/-- The pairs in which the first symbol is subtracted from the second. -/
inductive SubtractivePair where
  | IV | IX | XL | XC | CD | CM
  deriving DecidableEq, Repr

namespace SubtractivePair

def smaller : SubtractivePair → Symbol
  | IV | IX => .I
  | XL | XC => .X
  | CD | CM => .C

def larger : SubtractivePair → Symbol
  | IV => .V
  | IX => .X
  | XL => .L
  | XC => .C
  | CD => .D
  | CM => .M

def worth : SubtractivePair → Nat
  | IV => 4
  | IX => 9
  | XL => 40
  | XC => 90
  | CD => 400
  | CM => 900

theorem smaller_add_worth (pair : SubtractivePair) :
    pair.smaller.value + pair.worth = pair.larger.value := by
  cases pair <;> rfl

theorem smaller_lt_larger (pair : SubtractivePair) :
    pair.smaller.value < pair.larger.value := by
  cases pair <;> decide

theorem eq_of_larger_eq {first second : SubtractivePair} (hlarger : first.larger = second.larger) :
    first = second := by
  cases first <;> cases second <;> first | rfl | contradiction

theorem exists_of_subtractsFrom {small large : Symbol}
    (hlegal : small.subtractsFrom large = true) :
    ∃ pair : SubtractivePair, pair.smaller = small ∧ pair.larger = large := by
  cases small <;> cases large <;> first
    | contradiction
    | exact ⟨.IV, rfl, rfl⟩
    | exact ⟨.IX, rfl, rfl⟩
    | exact ⟨.XL, rfl, rfl⟩
    | exact ⟨.XC, rfl, rfl⟩
    | exact ⟨.CD, rfl, rfl⟩
    | exact ⟨.CM, rfl, rfl⟩

end SubtractivePair

namespace Numeral

inductive Group where
  | single (symbol : Symbol)
  | pair (kind : SubtractivePair)
  deriving DecidableEq, Repr

def Group.worth : Group → Nat
  | .single symbol => symbol.value
  | .pair kind => kind.worth

/-- Reading a numeral from left to right in groups.  No larger symbol follows a group, so what is
added or subtracted in one group is never subtracted from in another. -/
inductive Splits : Numeral → List Group → Prop where
  | nil : Splits [] []
  | single (symbol : Symbol) {rest : Numeral} {groups : List Group}
      (added : ∀ next ∈ rest.head?, next.value ≤ symbol.value) (splits : Splits rest groups) :
      Splits (symbol :: rest) (.single symbol :: groups)
  | pair (pair : SubtractivePair) {rest : Numeral} {groups : List Group}
      (added : ∀ next ∈ rest.head?, next.value ≤ pair.larger.value)
      (splits : Splits rest groups) :
      Splits (pair.smaller :: pair.larger :: rest) (.pair pair :: groups)

namespace Splits

variable {numeral : Numeral} {groups : List Group}

theorem total_eq (hsplits : Splits numeral groups) :
    numeral.total = ((groups.map Group.worth).sum : Nat) := by
  induction hsplits with
  | nil => rfl
  | single symbol added _ ih =>
      rw [total_cons_of_le added, ih]
      simp [Group.worth]
  | pair pair added _ ih =>
      have hworth := pair.smaller_add_worth
      rw [total_cons_of_lt pair.smaller_lt_larger, total_cons_of_le added, ih]
      simp only [List.map_cons, List.sum_cons, Group.worth]
      omega

theorem unique (hsplits : Splits numeral groups) {others : List Group}
    (hothers : Splits numeral others) : others = groups := by
  induction hsplits generalizing others with
  | nil =>
      cases hothers
      rfl
  | @single symbol rest _ added _ ih =>
      generalize hnumeral : symbol :: rest = numeral at hothers
      cases hothers with
      | nil => contradiction
      | single _ _ hrest =>
          obtain ⟨rfl, rfl⟩ := List.cons.inj hnumeral
          rw [ih hrest]
      | pair pair =>
          obtain ⟨rfl, rfl⟩ := List.cons.inj hnumeral
          have hle := added pair.larger rfl
          have hlt := pair.smaller_lt_larger
          omega
  | @pair pair rest _ added _ ih =>
      generalize hnumeral : pair.smaller :: pair.larger :: rest = numeral at hothers
      cases hothers with
      | nil => contradiction
      | single symbol hadded =>
          obtain ⟨rfl, rfl⟩ := List.cons.inj hnumeral
          have hle := hadded pair.larger rfl
          have hlt := pair.smaller_lt_larger
          omega
      | pair other _ hrest =>
          obtain ⟨_, htail⟩ := List.cons.inj hnumeral
          obtain ⟨hlarger, rfl⟩ := List.cons.inj htail
          rw [SubtractivePair.eq_of_larger_eq hlarger, ih hrest]

end Splits

/-- Where two symbols ascend they are a legal pair, and the symbol behind the pair is no larger. -/
theorem exists_splits : (numeral : Numeral) → (numeral ≠ [] → numeral.Regular) →
    ∃ groups, Splits numeral groups
  | [], _ => ⟨[], .nil⟩
  | [symbol], _ => ⟨[.single symbol], .single symbol (by simp) .nil⟩
  | symbol :: next :: more, hregular => by
      have hwhole := hregular (List.cons_ne_nil _ _)
      by_cases hascends : symbol.value < next.value
      · have hlegal := hwhole.legalPair symbol next ⟨[], more, rfl⟩ hascends
        obtain ⟨pair, rfl, rfl⟩ := SubtractivePair.exists_of_subtractsFrom hlegal
        have hsuffix : more <:+: pair.smaller :: pair.larger :: more :=
          ⟨[pair.smaller, pair.larger], [], by simp⟩
        obtain ⟨groups, hgroups⟩ := exists_splits more fun hne => hwhole.of_infix hsuffix hne
        exact ⟨_, .pair pair (hwhole.head_le_of_subtracted hascends) hgroups⟩
      · have hsuffix : next :: more <:+: symbol :: next :: more := ⟨[symbol], [], by simp⟩
        obtain ⟨groups, hgroups⟩ :=
          exists_splits (next :: more) fun hne => hwhole.of_infix hsuffix hne
        have hadded : ∀ other ∈ (next :: more).head?, other.value ≤ symbol.value := by
          simpa using Nat.not_lt.mp hascends
        exact ⟨_, .single symbol hadded hgroups⟩

theorem total_append {front back : Numeral}
    (hcut : ∀ last ∈ front.getLast?, ∀ next ∈ back.head?, next.value ≤ last.value) :
    total (front ++ back) = total front + total back := by
  induction front with
  | nil => simp [total]
  | cons symbol rest ih =>
      cases rest with
      | nil =>
          have hle : ∀ next ∈ back.head?, next.value ≤ symbol.value := hcut symbol rfl
          rw [List.singleton_append, total_cons_of_le hle, total_singleton]
      | cons next more =>
          have hrest : total (next :: (more ++ back)) = total (next :: more) + total back :=
            ih (by simpa using hcut)
          simp only [List.cons_append, total]
          rw [hrest]
          omega

/-- The total of a valid numeral is the sum of its groups, which are determined by the numeral, and
is positive.  Cut where it does not ascend, a valid numeral gives two valid numerals whose totals
sum to its own. -/
theorem total_is_sum_of_groups {numeral : Numeral} (hvalid : numeral.IsValid) :
    (∃ groups, (∀ others, Splits numeral others ↔ others = groups) ∧
      numeral.total = ((groups.map Group.worth).sum : Nat)) ∧
    1 ≤ numeral.total ∧
    ∀ front left right back, numeral = front ++ [left] ++ right :: back →
      right.value ≤ left.value →
        IsValid (front ++ [left]) ∧ IsValid (right :: back) ∧
          numeral.total = total (front ++ [left]) + total (right :: back) := by
  have hregular := isValid_iff_regular.mp hvalid
  refine ⟨?_, hregular.total_pos, ?_⟩
  · obtain ⟨groups, hgroups⟩ := exists_splits numeral fun _ => hregular
    refine ⟨groups, ?_, hgroups.total_eq⟩
    intro others
    constructor
    · intro hothers
      exact hgroups.unique hothers
    · rintro rfl
      exact hgroups
  · rintro front left right back rfl hle
    have hfront : front ++ [left] <:+: front ++ [left] ++ right :: back :=
      (List.prefix_append _ _).isInfix
    have hback : right :: back <:+: front ++ [left] ++ right :: back :=
      (List.suffix_append _ _).isInfix
    refine ⟨?_, ?_, ?_⟩
    · exact isValid_iff_regular.mpr (hregular.of_infix hfront (by simp))
    · exact isValid_iff_regular.mpr (hregular.of_infix hback (List.cons_ne_nil _ _))
    · apply total_append
      simpa using hle

/-- `XIXII` is ten, nine, one and one, and may be cut behind its first symbol. -/
theorem twenty_one_in_groups :
    IsValid [.X, .I, .X, .I, .I] ∧
      Splits [.X, .I, .X, .I, .I] [.single .X, .pair .IX, .single .I, .single .I] ∧
      total [.X, .I, .X, .I, .I] = 10 + 9 + 1 + 1 ∧
      IsValid [.X] ∧ IsValid [.I, .X, .I, .I] ∧
      total [.X, .I, .X, .I, .I] = total [.X] + total [.I, .X, .I, .I] := by
  have hvalid : IsValid [.X, .I, .X, .I, .I] := by decide
  obtain ⟨⟨groups, hgroups, htotal⟩, _, hcut⟩ := total_is_sum_of_groups hvalid
  have hsplits : Splits [.X, .I, .X, .I, .I] [.single .X, .pair .IX, .single .I, .single .I] :=
    .single .X (by decide) <| .pair .IX (by decide) <| .single .I (by decide) <|
      .single .I (by decide) .nil
  obtain rfl := (hgroups _).mp hsplits
  exact ⟨hvalid, hsplits, htotal, hcut [] .X .I [.X, .I, .I] rfl (by decide)⟩

end Numeral
end RomanTrade
