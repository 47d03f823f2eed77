import Mathlib.Data.Fintype.Basic
import Mathlib.Tactic.FinCases
import RomanTrade.Proofs.NumeralGroups
import RomanTrade.Proofs.Quantity

/-!
# Canonical numerals

Each number up to 3999 is written place by place, with one of ten usual forms for a digit.  These
are the numerals that are composed of numbers, they are valid and count what was written, and among
all valid numerals they are the ones that composing their value gives back.
-/

namespace RomanTrade

theorem Symbol.value_injective : Function.Injective Symbol.value := by
  intro first second hsame
  cases first <;> cases second <;> first | rfl | contradiction

/-- The decimal places below the thousands. -/
inductive Place where
  | ones | tens | hundreds
  deriving DecidableEq, Repr

namespace Place

def one : Place → Symbol
  | ones => .I
  | tens => .X
  | hundreds => .C

def five : Place → Symbol
  | ones => .V
  | tens => .L
  | hundreds => .D

def ten : Place → Symbol
  | ones => .X
  | tens => .C
  | hundreds => .M

/-- The usual forms of a digit. -/
def form (place : Place) : Fin 10 → Numeral
  | 0 => []
  | 1 => [place.one]
  | 2 => [place.one, place.one]
  | 3 => [place.one, place.one, place.one]
  | 4 => [place.one, place.five]
  | 5 => [place.five]
  | 6 => [place.five, place.one]
  | 7 => [place.five, place.one, place.one]
  | 8 => [place.five, place.one, place.one, place.one]
  | 9 => [place.one, place.ten]

theorem isRepeatable_one (place : Place) : place.one.isRepeatable = true := by
  cases place <;> rfl

theorem one_lt_ten (place : Place) : place.one.value < place.ten.value := by
  cases place <;> decide

theorem total_form (place : Place) (digit : Fin 10) :
    (place.form digit).total = digit.val * place.one.value := by
  cases place <;> revert digit <;> decide

theorem isValid_form (place : Place) {digit : Fin 10} (hdigit : place.form digit ≠ []) :
    (place.form digit).IsValid := by
  cases place <;> revert digit <;> decide

theorem between_of_mem_form (place : Place) (digit : Fin 10) :
    ∀ symbol ∈ place.form digit,
      place.one.value ≤ symbol.value ∧ symbol.value ≤ place.ten.value := by
  cases place <;> revert digit <;> decide

theorem head_form_lt (place : Place) (digit : Fin 10) :
    ∀ symbol ∈ (place.form digit).head?, symbol.value < place.ten.value := by
  cases place <;> revert digit <;> decide

theorem count_ten_form_le (place : Place) (digit : Fin 10) :
    (place.form digit).count place.ten ≤ 1 := by
  cases place <;> revert digit <;> decide

end Place

namespace Numeral

/-! ### Composing by the greatest part -/

section Compose

variable {value n : Nat} {symbols : Numeral} {more : List (Nat × Numeral)}

theorem compose_of_lt (hlt : n < value) :
    compose ((value, symbols) :: more) n = compose more n := by
  rw [compose, Nat.div_eq_of_lt hlt, Nat.mod_eq_of_lt hlt]
  rfl

theorem compose_of_le (hpos : 0 < value) (hle : value ≤ n) :
    compose ((value, symbols) :: more) n =
      symbols ++ compose ((value, symbols) :: more) (n - value) := by
  rw [compose, compose, Nat.div_eq_sub_div hpos hle, Nat.mod_eq_sub_mod hle, List.replicate_succ,
    List.flatten_cons, List.append_assoc]

theorem compose_repeated {symbol : Symbol} (times : Nat) {rest : Nat} (hrest : rest < value) :
    compose ((value, [symbol]) :: more) (times * value + rest) =
      List.replicate times symbol ++ compose more rest := by
  have hdiv : (times * value + rest) / value = times := by
    rw [Nat.mul_comm, Nat.mul_add_div (by omega), Nat.div_eq_of_lt hrest, Nat.add_zero]
  have hmod : (times * value + rest) % value = rest := by
    rw [Nat.mul_add_mod', Nat.mod_eq_of_lt hrest]
  rw [compose, hdiv, hmod, List.flatten_replicate_singleton]

end Compose

end Numeral

def Place.parts (place : Place) : List (Nat × Numeral) :=
  [(9 * place.one.value, [place.one, place.ten]), (5 * place.one.value, [place.five]),
    (4 * place.one.value, [place.one, place.five]), (place.one.value, [place.one])]

namespace Numeral

theorem parts_eq :
    parts = (1000, [.M]) :: (Place.hundreds.parts ++ (Place.tens.parts ++ Place.ones.parts)) := rfl

theorem compose_place (place : Place) (digit : Fin 10) {rest : Nat}
    (hrest : rest < place.one.value) (more : List (Nat × Numeral)) :
    compose (place.parts ++ more) (digit.val * place.one.value + rest) =
      place.form digit ++ compose more rest := by
  have hpos := place.one.value_pos
  unfold Place.parts
  generalize place.one.value = unit at hrest hpos
  -- Each digit takes its parts one by one and leaves the rest to the places below.
  fin_cases digit
  all_goals simp (disch := omega) [compose_of_lt, compose_of_le, Place.form]
  all_goals
    congr 1
    omega

/-! ### Joining places -/

/-- What may follow the symbols of a place whose unit is given: nothing above the unit, which may
come once more, but not first. -/
structure Below (unit : Symbol) (rest : Numeral) : Prop where
  regular : rest ≠ [] → rest.Regular
  le : ∀ symbol ∈ rest, symbol.value ≤ unit.value
  head : ∀ symbol ∈ rest.head?, symbol.value < unit.value
  once : rest.count unit ≤ 1

theorem below_nil (unit : Symbol) : Below unit [] := by
  constructor <;> simp

section Join

variable {unit : Symbol} {front back : Numeral}

theorem Below.total_append (hbelow : Below unit back)
    (habove : ∀ symbol ∈ front, unit.value ≤ symbol.value) :
    total (front ++ back) = total front + total back := by
  apply Numeral.total_append
  intro last hlast next hnext
  have hunit := habove last (List.mem_of_mem_getLast? hlast)
  have hlt := hbelow.head next hnext
  omega

/-- A stretch that reaches over the joint descends there. -/
theorem Below.infix_cases (hbelow : Below unit back)
    (habove : ∀ symbol ∈ front, unit.value ≤ symbol.value) {stretch : Numeral}
    (hstretch : stretch <:+: front ++ back) :
    stretch <:+: front ∨ stretch <:+: back ∨
      ∃ early left right late, stretch = early ++ left :: right :: late ∧
        unit.value ≤ left.value ∧ right.value < unit.value ∧ right :: late <+: back := by
  rcases List.infix_append_iff_ne_nil.mp hstretch with hfront | hback |
    ⟨upper, lower, hupper, hlower, rfl, hsuffix, hopens⟩
  · exact .inl hfront
  · exact .inr (.inl hback)
  · obtain ⟨early, left, rfl⟩ := List.eq_nil_or_concat upper |>.resolve_left hupper
    obtain ⟨right, late, rfl⟩ := List.exists_cons_of_ne_nil hlower
    refine .inr (.inr ⟨early, left, right, late, by simp, ?_, ?_, hopens⟩)
    · exact habove left (hsuffix.subset (by simp))
    · obtain ⟨tail, rfl⟩ := hopens
      exact hbelow.head right rfl

theorem length_add_two_le {stretch early late : Numeral} {left right : Symbol}
    (hstretch : stretch = early ++ left :: right :: late) : early.length + 2 ≤ stretch.length := by
  rw [hstretch, List.length_append, List.length_cons, List.length_cons]
  omega

theorem Below.regular_of_infix (hbelow : Below unit back) {stretch : Numeral}
    (hne : stretch ≠ []) (hstretch : stretch <:+: back) : back.Regular := by
  apply hbelow.regular
  rintro rfl
  exact hne (List.infix_nil.mp hstretch)

/-- A single symbol is not the unit, so it stands on one side only. -/
theorem Below.single_append (hbelow : Below unit back) (hunit : unit.isRepeatable = true)
    (hfront : front.Regular) (habove : ∀ symbol ∈ front, unit.value ≤ symbol.value)
    {symbol : Symbol} (hsingle : symbol.isSingle = true) : (front ++ back).count symbol ≤ 1 := by
  have hother : symbol ≠ unit := by
    rintro rfl
    simp [Symbol.isSingle, hunit] at hsingle
  rw [List.count_append]
  by_cases hmem : symbol ∈ back
  · have hle := hbelow.le symbol hmem
    have hnone : front.count symbol = 0 := by
      apply List.count_eq_zero_of_not_mem
      intro hfrontmem
      have hge := habove symbol hfrontmem
      exact hother (Symbol.value_injective (Nat.le_antisymm hle hge))
    have hcount := (hbelow.regular (List.ne_nil_of_mem hmem)).single symbol hsingle
    omega
  · have hcount := hfront.single symbol hsingle
    rw [List.count_eq_zero_of_not_mem hmem]
    omega

theorem Below.shortRun_append (hbelow : Below unit back) (hfront : front.Regular)
    (habove : ∀ symbol ∈ front, unit.value ≤ symbol.value) {symbol : Symbol}
    (hrepeats : symbol.isRepeatable = true) :
    ¬ List.replicate 4 symbol <:+: front ++ back := by
  intro hlong
  rcases hbelow.infix_cases habove hlong with hin | hin |
    ⟨early, left, right, late, hstretch, hleft, hright, _⟩
  · exact hfront.shortRun symbol hrepeats hin
  · exact (hbelow.regular_of_infix (by simp) hin).shortRun symbol hrepeats hin
  · have hsame : ∀ other ∈ early ++ left :: right :: late, other = symbol := by
      rw [← hstretch]
      exact fun other hother => List.eq_of_mem_replicate hother
    rw [hsame left (by simp)] at hleft
    rw [hsame right (by simp)] at hright
    omega

theorem Below.notResumed_append (hbelow : Below unit back) (hfront : front.Regular)
    (habove : ∀ symbol ∈ front, unit.value ≤ symbol.value) {symbol between : Symbol}
    (hrepeats : symbol.isRepeatable = true) (hsmaller : between.value < symbol.value) :
    ¬ [symbol, between, symbol, symbol] <:+: front ++ back := by
  intro hresumed
  rcases hbelow.infix_cases habove hresumed with hin | hin |
    ⟨early, left, right, late, hstretch, hleft, hright, hopens⟩
  · exact hfront.notResumed symbol between hrepeats hsmaller hin
  · exact (hbelow.regular_of_infix (by simp) hin).notResumed symbol between hrepeats hsmaller hin
  · rcases early with _ | ⟨_, _ | ⟨_, _ | ⟨_, early⟩⟩⟩
    · -- Only the unit stands on both sides, and then it is repeated behind the joint.
      simp only [List.nil_append, List.cons.injEq] at hstretch
      obtain ⟨rfl, rfl, rfl⟩ := hstretch
      have hle := hbelow.le symbol (hopens.subset (by simp))
      obtain rfl := Symbol.value_injective (Nat.le_antisymm hleft hle)
      have htwice : [unit, unit].count unit ≤ back.count unit :=
        ((List.sublist_cons_self between _).trans hopens.sublist).count_le unit
      have honce := hbelow.once
      simp at htwice
      omega
    · simp only [List.singleton_append, List.cons.injEq] at hstretch
      obtain ⟨_, rfl, rfl, _⟩ := hstretch
      omega
    · simp only [List.cons_append, List.nil_append, List.cons.injEq] at hstretch
      obtain ⟨_, _, rfl, rfl, _⟩ := hstretch
      omega
    · have hlength := length_add_two_le hstretch
      simp at hlength

theorem Below.legalPair_append (hbelow : Below unit back) (hfront : front.Regular)
    (habove : ∀ symbol ∈ front, unit.value ≤ symbol.value) {left right : Symbol}
    (hpair : [left, right] <:+: front ++ back) (hascends : left.value < right.value) :
    left.subtractsFrom right = true := by
  rcases hbelow.infix_cases habove hpair with hin | hin |
    ⟨early, upper, lower, late, hstretch, hupper, hlower, _⟩
  · exact hfront.legalPair left right hin hascends
  · exact (hbelow.regular_of_infix (by simp) hin).legalPair left right hin hascends
  · rcases early with _ | ⟨_, early⟩
    · simp only [List.nil_append, List.cons.injEq] at hstretch
      obtain ⟨rfl, rfl, _⟩ := hstretch
      omega
    · have hlength := length_add_two_le hstretch
      simp at hlength

theorem Below.subtractedOnce_append (hbelow : Below unit back) (hfront : front.Regular)
    (habove : ∀ symbol ∈ front, unit.value ≤ symbol.value) {before left right : Symbol}
    (htriple : [before, left, right] <:+: front ++ back) (hascends : left.value < right.value) :
    right.value ≤ before.value := by
  rcases hbelow.infix_cases habove htriple with hin | hin |
    ⟨early, upper, lower, late, hstretch, hupper, hlower, hopens⟩
  · exact hfront.subtractedOnce before left right hin hascends
  · exact (hbelow.regular_of_infix (by simp) hin).subtractedOnce before left right hin hascends
  · rcases early with _ | ⟨_, _ | ⟨_, early⟩⟩
    · simp only [List.nil_append, List.cons.injEq] at hstretch
      obtain ⟨rfl, rfl, rfl⟩ := hstretch
      have hle := hbelow.le right (hopens.subset (by simp))
      omega
    · simp only [List.singleton_append, List.cons.injEq] at hstretch
      obtain ⟨_, rfl, rfl, _⟩ := hstretch
      omega
    · have hlength := length_add_two_le hstretch
      simp at hlength

theorem Below.regular_append (hbelow : Below unit back) (hunit : unit.isRepeatable = true)
    (hfront : front.Regular) (habove : ∀ symbol ∈ front, unit.value ≤ symbol.value) :
    (front ++ back).Regular where
  nonempty := List.append_ne_nil_of_left_ne_nil hfront.nonempty back
  single _ hsingle := hbelow.single_append hunit hfront habove hsingle
  shortRun _ hrepeats := hbelow.shortRun_append hfront habove hrepeats
  notResumed _ _ hrepeats hsmaller := hbelow.notResumed_append hfront habove hrepeats hsmaller
  legalPair _ _ hpair hascends := hbelow.legalPair_append hfront habove hpair hascends
  subtractedOnce _ _ _ htriple hascends :=
    hbelow.subtractedOnce_append hfront habove htriple hascends

end Join

/-- A digit and what stands below its place stand below the next place. -/
theorem Below.form_append {place : Place} {rest : Numeral} (hbelow : Below place.one rest)
    (digit : Fin 10) : Below place.ten (place.form digit ++ rest) := by
  have hlt := place.one_lt_ten
  have hrest : ∀ symbol ∈ rest, symbol.value < place.ten.value := by
    intro symbol hsymbol
    have hle := hbelow.le symbol hsymbol
    omega
  constructor
  · intro hne
    by_cases hform : place.form digit = []
    · rw [hform, List.nil_append] at hne ⊢
      exact hbelow.regular hne
    · have hvalid := place.isValid_form hform
      apply hbelow.regular_append place.isRepeatable_one (isValid_iff_regular.mp hvalid)
      exact fun symbol hsymbol => (place.between_of_mem_form digit symbol hsymbol).1
  · intro symbol hsymbol
    rcases List.mem_append.mp hsymbol with hform | hmem
    · exact (place.between_of_mem_form digit symbol hform).2
    · exact Nat.le_of_lt (hrest symbol hmem)
  · intro symbol hsymbol
    rw [List.head?_append, Option.mem_def, Option.or_eq_some_iff] at hsymbol
    rcases hsymbol with hform | ⟨_, hhead⟩
    · exact place.head_form_lt digit symbol hform
    · exact hrest symbol (List.mem_of_head? hhead)
  · have hnone : rest.count place.ten = 0 := by
      apply List.count_eq_zero_of_not_mem
      intro hmem
      exact Nat.lt_irrefl _ (hrest _ hmem)
    rw [List.count_append, hnone]
    exact place.count_ten_form_le digit

theorem Below.total_form_append {place : Place} {rest : Numeral} (hbelow : Below place.one rest)
    (digit : Fin 10) :
    total (place.form digit ++ rest) = digit.val * place.one.value + total rest := by
  rw [hbelow.total_append fun symbol hsymbol =>
    (place.between_of_mem_form digit symbol hsymbol).1, place.total_form]

/-! ### Canonical numerals -/

/-- The symbols below the thousands, place by place. -/
def lowPlaces (hundreds tens ones : Fin 10) : Numeral :=
  Place.hundreds.form hundreds ++ (Place.tens.form tens ++ Place.ones.form ones)

/-- Up to three thousands, then the usual forms of three digits. -/
def IsCanonical (numeral : Numeral) : Prop :=
  ∃ (thousands : Nat) (hundreds tens ones : Fin 10), thousands ≤ 3 ∧
    numeral = List.replicate thousands .M ++ lowPlaces hundreds tens ones

section Digits

variable (thousands : Nat) (hundreds tens ones : Fin 10)

theorem below_ones : Below Place.tens.one (Place.ones.form ones) := by
  have hstart : Below Place.ones.one [] := below_nil .I
  have hones := hstart.form_append ones
  rwa [List.append_nil] at hones

theorem below_tens : Below Place.hundreds.one (Place.tens.form tens ++ Place.ones.form ones) :=
  (below_ones ones).form_append tens

theorem below_lowPlaces : Below .M (lowPlaces hundreds tens ones) :=
  (below_tens tens ones).form_append hundreds

theorem total_lowPlaces :
    total (lowPlaces hundreds tens ones) = hundreds.val * 100 + (tens.val * 10 + ones.val) := by
  unfold lowPlaces
  rw [(below_tens tens ones).total_form_append, (below_ones ones).total_form_append,
    Place.total_form]
  simp [Place.one, Symbol.value]

theorem total_canonical :
    total (List.replicate thousands .M ++ lowPlaces hundreds tens ones) =
      thousands * 1000 + (hundreds.val * 100 + (tens.val * 10 + ones.val)) := by
  have hthousands : total (List.replicate thousands .M) = thousands * 1000 := by
    induction thousands with
    | zero => rfl
    | succ count ih =>
        have hle : ∀ next ∈ (List.replicate count Symbol.M).head?, next.value ≤ Symbol.M.value :=
          fun next _ => next.value_le
        rw [List.replicate_succ, total_cons_of_le hle, ih]
        simp only [Symbol.value]
        omega
  have habove : ∀ symbol ∈ List.replicate thousands Symbol.M,
      Symbol.M.value ≤ symbol.value := by
    intro symbol hsymbol
    rw [List.eq_of_mem_replicate hsymbol]
  rw [(below_lowPlaces hundreds tens ones).total_append habove, hthousands, total_lowPlaces]

theorem compose_digits :
    compose parts (thousands * 1000 + (hundreds.val * 100 + (tens.val * 10 + ones.val))) =
      List.replicate thousands .M ++ lowPlaces hundreds tens ones := by
  have hones : compose Place.ones.parts ones.val = Place.ones.form ones := by
    have hplace := compose_place .ones ones (Nat.one_pos : 0 < Place.ones.one.value) []
    simpa [Place.one, Symbol.value, compose] using hplace
  have htens : compose (Place.tens.parts ++ Place.ones.parts) (tens.val * 10 + ones.val) =
      Place.tens.form tens ++ Place.ones.form ones := by
    have hrest : ones.val < Place.tens.one.value := ones.isLt
    rw [← hones]
    exact compose_place .tens tens hrest Place.ones.parts
  have hhundreds : compose (Place.hundreds.parts ++ (Place.tens.parts ++ Place.ones.parts))
      (hundreds.val * 100 + (tens.val * 10 + ones.val)) = lowPlaces hundreds tens ones := by
    have hrest : tens.val * 10 + ones.val < 100 := by omega
    unfold lowPlaces
    rw [← htens]
    exact compose_place .hundreds hundreds hrest _
  have hlow : hundreds.val * 100 + (tens.val * 10 + ones.val) < 1000 := by omega
  rw [parts_eq, compose_repeated thousands hlow, hhundreds]

end Digits

theorem exists_digits (n : Nat) : ∃ (thousands : Nat) (hundreds tens ones : Fin 10),
    n = thousands * 1000 + (hundreds.val * 100 + (tens.val * 10 + ones.val)) := by
  refine ⟨n / 1000, ⟨n / 100 % 10, by omega⟩, ⟨n / 10 % 10, by omega⟩, ⟨n % 10, by omega⟩, ?_⟩
  simp only
  omega

theorem total_compose (n : Nat) : total (compose parts n) = n := by
  obtain ⟨thousands, hundreds, tens, ones, rfl⟩ := exists_digits n
  rw [compose_digits, total_canonical]
  push_cast
  rfl

theorem isCanonical_compose {n : Nat} (hle : n ≤ 3999) : IsCanonical (compose parts n) := by
  obtain ⟨thousands, hundreds, tens, ones, rfl⟩ := exists_digits n
  rw [compose_digits]
  exact ⟨thousands, hundreds, tens, ones, by omega, rfl⟩

theorem IsCanonical.exists_compose {numeral : Numeral} (hcanonical : numeral.IsCanonical) :
    ∃ n : Nat, n ≤ 3999 ∧ numeral = compose parts n := by
  obtain ⟨thousands, hundreds, tens, ones, hle, rfl⟩ := hcanonical
  exact ⟨_, by omega, (compose_digits thousands hundreds tens ones).symm⟩

theorem IsCanonical.isValid {numeral : Numeral} (hcanonical : numeral.IsCanonical)
    (hne : numeral ≠ []) : numeral.IsValid := by
  obtain ⟨thousands, hundreds, tens, ones, hle, rfl⟩ := hcanonical
  have hbelow := below_lowPlaces hundreds tens ones
  rw [isValid_iff_regular]
  by_cases hnone : thousands = 0
  · subst hnone
    exact hbelow.regular hne
  · have hvalid : ∀ count < 4, count ≠ 0 → IsValid (List.replicate count .M) := by decide
    have hfront := isValid_iff_regular.mp (hvalid thousands (by omega) hnone)
    apply hbelow.regular_append rfl hfront
    intro symbol hsymbol
    rw [List.eq_of_mem_replicate hsymbol]

theorem wordOfTotal_compose {n : Nat} (hle : n ≤ 3999) :
    wordOfTotal (total (compose parts n)) = n := by
  have htotal := total_compose n
  have hword : (wordOfTotal (total (compose parts n)) : Int) = total (compose parts n) :=
    wordOfTotal_of_lt (by omega) (by omega)
  omega

/-- A valid numeral whose value is at most 3999 has a canonical spelling of that value, which is
valid, counts the same and is the numeral itself exactly when the numeral is written by places. -/
theorem values_have_canonical_spelling {numeral : Numeral} {n : Nat}
    (hdecimal : numeral.toDecimal = .ok n) (hpos : 1 ≤ n) (hle : n ≤ 3999) :
    ∃ canonical, ofNat n = .ok canonical ∧ canonical.IsValid ∧ canonical.toDecimal = .ok n ∧
      (canonical = numeral ↔ numeral.IsCanonical) := by
  have hwritten : ofNat n = .ok (compose parts n) := by
    have hlargest : largest = 3999 := rfl
    unfold ofNat
    rw [if_neg (by omega)]
  have hne : compose parts n ≠ [] := by
    intro hnil
    have htotal := total_compose n
    rw [hnil] at htotal
    simp only [total] at htotal
    omega
  have hvalid := (isCanonical_compose hle).isValid hne
  refine ⟨_, hwritten, hvalid, toDecimal_eq_ok_iff.mpr ⟨hvalid, wordOfTotal_compose hle⟩, ?_⟩
  constructor
  · rintro rfl
    exact isCanonical_compose hle
  · intro hcanonical
    obtain ⟨value, hvalue, rfl⟩ := hcanonical.exists_compose
    have hword := (toDecimal_eq_ok_iff.mp hdecimal).2
    rw [wordOfTotal_compose hvalue] at hword
    rw [hword]

/-- `XIXII` counts 21 and is spelled `XXI`, so it is not canonical. -/
theorem twenty_one_spelled_canonically :
    toDecimal [.X, .I, .X, .I, .I] = .ok 21 ∧ ofNat 21 = .ok [.X, .X, .I] ∧
      IsValid [.X, .X, .I] ∧ toDecimal [.X, .X, .I] = .ok 21 ∧
      ¬ IsCanonical [.X, .I, .X, .I, .I] := by
  have hdecimal : toDecimal [.X, .I, .X, .I, .I] = .ok 21 := rfl
  obtain ⟨canonical, hwritten, hvalid, hcount, hsame⟩ :=
    values_have_canonical_spelling hdecimal (by decide) (by decide)
  have hshort : ofNat 21 = .ok [.X, .X, .I] := rfl
  obtain rfl := Except.ok.inj (hshort.symm.trans hwritten)
  refine ⟨hdecimal, hshort, hvalid, hcount, ?_⟩
  rw [← hsame]
  decide

end Numeral
end RomanTrade
