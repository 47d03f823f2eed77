import Mathlib.Tactic.Ring
import RomanTrade.Proofs.NumeralRules

/-!
# Totals of valid numerals

A symbol that counts against the total stands before one that outweighs it and is not outweighed
itself, so the total of a valid numeral is positive.  Nothing bounds it from above: a subtractive
pair may follow its larger symbol any number of times, and every positive number is the total of
some valid numeral.
-/

namespace RomanTrade

theorem Symbol.value_pos (symbol : Symbol) : 0 < symbol.value := by
  cases symbol <;> decide

theorem Symbol.value_le (symbol : Symbol) : symbol.value ≤ 1000 := by
  cases symbol <;> decide

theorem Symbol.lt_of_subtractsFrom {small large : Symbol}
    (hlegal : small.subtractsFrom large = true) : small.value < large.value := by
  cases small <;> cases large <;> first | decide | contradiction

theorem Symbol.isRepeatable_of_subtractsFrom {small large : Symbol}
    (hlegal : small.subtractsFrom large = true) : small.isRepeatable = true := by
  cases small <;> cases large <;> first | decide | contradiction

namespace Numeral

theorem Regular.of_infix {numeral stretch : Numeral} (hregular : numeral.Regular)
    (hstretch : stretch <:+: numeral) (hne : stretch ≠ []) : stretch.Regular := by
  constructor
  · exact hne
  · intro symbol hsingle
    exact Nat.le_trans (hstretch.sublist.count_le symbol) (hregular.single symbol hsingle)
  · intro symbol hrepeats hlong
    exact hregular.shortRun symbol hrepeats (hlong.trans hstretch)
  · intro symbol between hrepeats hsmaller hresumed
    exact hregular.notResumed symbol between hrepeats hsmaller (hresumed.trans hstretch)
  · intro left right hpair
    exact hregular.legalPair left right (hpair.trans hstretch)
  · intro before left right htriple
    exact hregular.subtractedOnce before left right (htriple.trans hstretch)

theorem total_cons_of_le {symbol : Symbol} {rest : Numeral}
    (h : ∀ next ∈ rest.head?, next.value ≤ symbol.value) :
    total (symbol :: rest) = symbol.value + total rest := by
  cases rest with
  | nil => simp [total]
  | cons next more =>
      have hle : ¬ symbol.value < next.value := Nat.not_lt.mpr (h next rfl)
      rw [total, if_neg hle]

theorem total_cons_of_lt {symbol next : Symbol} {rest : Numeral}
    (h : symbol.value < next.value) :
    total (symbol :: next :: rest) = -(symbol.value : Int) + total (next :: rest) := by
  rw [total, if_pos h]

theorem total_singleton (symbol : Symbol) : total [symbol] = symbol.value := rfl

theorem Regular.head_le_of_subtracted {symbol next : Symbol} {more : Numeral}
    (hregular : Regular (symbol :: next :: more)) (hascends : symbol.value < next.value) :
    ∀ third ∈ more.head?, third.value ≤ next.value := by
  intro third hthird
  obtain ⟨tail, rfl⟩ := List.head?_eq_some_iff.mp hthird
  have htriple : [symbol, next, third] <:+: symbol :: next :: third :: tail := ⟨[], tail, rfl⟩
  have honce := hregular.subtractedOnce symbol next third htriple
  omega

/-- The total is positive, and no less than the first symbol where that one is added. -/
theorem Regular.total_bounds {symbol : Symbol} {rest : Numeral}
    (hregular : Regular (symbol :: rest)) :
    0 < total (symbol :: rest) ∧
      ((∀ next ∈ rest.head?, next.value ≤ symbol.value) →
        (symbol.value : Int) ≤ total (symbol :: rest)) := by
  have hsymbol := symbol.value_pos
  -- A subtracted symbol needs the bound of the one behind it, an added one only its sign.
  induction rest generalizing symbol with
  | nil =>
      rw [total_singleton]
      omega
  | cons next more ih =>
      have hsuffix : next :: more <:+: symbol :: next :: more := ⟨[symbol], [], by simp⟩
      have hrest := ih (hregular.of_infix hsuffix (List.cons_ne_nil next more)) next.value_pos
      obtain ⟨hpos, hbound⟩ := hrest
      by_cases hascends : symbol.value < next.value
      · have hnext := hbound (hregular.head_le_of_subtracted hascends)
        rw [total_cons_of_lt hascends]
        refine ⟨by omega, fun hhead => ?_⟩
        have hle := hhead next rfl
        omega
      · have hhead : ∀ other ∈ (next :: more).head?, other.value ≤ symbol.value := by
          intro other hother
          obtain rfl : next = other := by simpa using hother
          omega
        rw [total_cons_of_le hhead]
        omega

theorem Regular.total_pos {numeral : Numeral} (hregular : numeral.Regular) :
    0 < numeral.total := by
  cases numeral with
  | nil => exact absurd rfl hregular.nonempty
  | cons symbol rest => exact hregular.total_bounds.1

theorem total_le (numeral : Numeral) : numeral.total ≤ 1000 * numeral.length := by
  induction numeral with
  | nil => simp [total]
  | cons symbol rest ih =>
      have hvalue := symbol.value_le
      have hstep : total (symbol :: rest) ≤ symbol.value + total rest := by
        cases rest with
        | nil => simp [total]
        | cons next more =>
            rw [total]
            split <;> omega
      rw [List.length_cons]
      omega

/-! ### Numerals of any size -/

/-- A symbol, so many times the pair that subtracts a smaller symbol from it, and a tail. -/
def zigzag (large small : Symbol) (times : Nat) (tail : Numeral) : Numeral :=
  large :: ((List.replicate times [small, large]).flatten ++ tail)

theorem zigzag_zero (large small : Symbol) (tail : Numeral) :
    zigzag large small 0 tail = large :: tail := rfl

theorem zigzag_succ (large small : Symbol) (times : Nat) (tail : Numeral) :
    zigzag large small (times + 1) tail = large :: small :: zigzag large small times tail := rfl

section Zigzag

variable {large small : Symbol} {tail : Numeral}

theorem total_zigzag (hlegal : small.subtractsFrom large = true)
    (htail : ∀ next ∈ tail.head?, next.value < large.value) (times : Nat) :
    total (zigzag large small times tail) =
      large.value + times * ((large.value : Int) - small.value) + tail.total := by
  have hascends := Symbol.lt_of_subtractsFrom hlegal
  induction times with
  | zero =>
      rw [zigzag_zero, total_cons_of_le fun next hnext => Nat.le_of_lt (htail next hnext)]
      simp
  | succ times ih =>
      have hle : ∀ next ∈ (small :: zigzag large small times tail).head?,
          next.value ≤ large.value := by
        simpa using Nat.le_of_lt hascends
      have hsubtracted : total (small :: zigzag large small times tail) =
          -(small.value : Int) + total (zigzag large small times tail) :=
        total_cons_of_lt hascends
      rw [zigzag_succ, total_cons_of_le hle, hsubtracted, ih]
      push_cast
      ring

/-- One more subtractive pair in front breaks no rule: the run of the larger symbol is resumed by
one only, and the smaller symbol lies between two that outweigh it. -/
theorem Regular.cons_pair {rest : Numeral} (hregular : Regular (large :: rest))
    (hlegal : small.subtractsFrom large = true) (hrepeats : large.isRepeatable = true)
    (hrest : ∀ next ∈ rest.head?, next.value < large.value) :
    Regular (large :: small :: large :: rest) := by
  have hascends := Symbol.lt_of_subtractsFrom hlegal
  have hne : small ≠ large := by
    rintro rfl
    omega
  constructor
  · exact List.cons_ne_nil _ _
  · intro symbol hsingle
    have hsmall := Symbol.isRepeatable_of_subtractsFrom hlegal
    have hnotlarge : large ≠ symbol := by
      rintro rfl
      simp [Symbol.isSingle, hrepeats] at hsingle
    have hnotsmall : small ≠ symbol := by
      rintro rfl
      simp [Symbol.isSingle, hsmall] at hsingle
    have hcount := hregular.single symbol hsingle
    rwa [List.count_cons_of_ne hnotlarge, List.count_cons_of_ne hnotsmall]
  · -- A long stretch of one symbol lies behind both, since the two differ.
    intro symbol hrep hlong
    change [symbol, symbol, symbol, symbol] <:+: large :: small :: large :: rest at hlong
    rcases List.infix_cons_iff.mp hlong with hfirst | hlong
    · simp only [List.cons_prefix_cons] at hfirst
      exact hne (hfirst.2.1.symm.trans hfirst.1)
    rcases List.infix_cons_iff.mp hlong with hsecond | hlong
    · simp only [List.cons_prefix_cons] at hsecond
      exact hne (hsecond.1.symm.trans hsecond.2.1)
    exact hregular.shortRun symbol hrep hlong
  · -- A run that is resumed at the front has one symbol more behind the pair, but `rest` begins
    -- with a smaller one.
    intro symbol between hrep hsmaller hresumed
    rcases List.infix_cons_iff.mp hresumed with hfirst | hresumed
    · simp only [List.cons_prefix_cons] at hfirst
      obtain ⟨rfl, _, _, hagain⟩ := hfirst
      obtain ⟨back, hback⟩ := hagain
      have hlt := hrest symbol (by simp [← hback])
      omega
    rcases List.infix_cons_iff.mp hresumed with hsecond | hresumed
    · simp only [List.cons_prefix_cons] at hsecond
      obtain ⟨rfl, rfl, _⟩ := hsecond
      omega
    exact hregular.notResumed symbol between hrep hsmaller hresumed
  · rw [forall_pair_infix_cons_iff, forall_pair_infix_cons_iff]
    exact ⟨fun hlt => by omega, fun _ => hlegal, hregular.legalPair⟩
  · rw [forall_triple_infix_cons_iff]
    refine ⟨fun _ => Nat.le_refl large.value, ?_⟩
    cases rest with
    | nil => simp [List.infix_cons_iff]
    | cons next more =>
        have hlt := hrest next rfl
        rw [forall_triple_infix_cons_iff]
        exact ⟨fun hlarger => by omega, hregular.subtractedOnce⟩

theorem head_lt_of_legal (hlegal : small.subtractsFrom large = true)
    (htail : ∀ next ∈ tail.head?, next.value < large.value) (times : Nat) :
    ∀ next ∈ ((List.replicate times [small, large]).flatten ++ tail).head?,
      next.value < large.value := by
  cases times with
  | zero => simpa using htail
  | succ times => simpa [List.replicate_succ] using Symbol.lt_of_subtractsFrom hlegal

theorem regular_zigzag (hlegal : small.subtractsFrom large = true)
    (hrepeats : large.isRepeatable = true)
    (htail : ∀ next ∈ tail.head?, next.value < large.value)
    (hbase : Regular (large :: tail)) (times : Nat) : (zigzag large small times tail).Regular := by
  induction times with
  | zero => exact hbase
  | succ times ih =>
      rw [zigzag_succ]
      exact ih.cons_pair hlegal hrepeats (head_lt_of_legal hlegal htail times)

end Zigzag

theorem compose_ones : ∀ rest < 9,
    IsValid (.X :: compose parts rest) ∧
      (∀ next ∈ (compose parts rest).head?, next.value < Symbol.X.value) ∧
      total (compose parts rest) = rest := by
  decide

theorem compose_digit : ∀ n < 10, 0 < n →
    IsValid (compose parts n) ∧ total (compose parts n) = n := by
  decide

/-- Validation lets every positive total pass: from ten on a number is ten, so many times nine, and
less than nine. -/
theorem exists_valid_with_total {n : Nat} (hn : 0 < n) :
    ∃ numeral : Numeral, numeral.IsValid ∧ numeral.total = n := by
  by_cases hsmall : n < 10
  · exact ⟨compose parts n, compose_digit n hsmall hn⟩
  · have hrest : (n - 10) % 9 < 9 := Nat.mod_lt _ (by decide)
    obtain ⟨hbase, hhead, htotal⟩ := compose_ones _ hrest
    refine ⟨zigzag .X .I ((n - 10) / 9) (compose parts ((n - 10) % 9)), ?_, ?_⟩
    · rw [isValid_iff_regular] at hbase ⊢
      exact regular_zigzag rfl rfl hhead hbase _
    · have hdiv := Nat.div_add_mod (n - 10) 9
      rw [total_zigzag rfl hhead, htotal]
      simp only [Symbol.value]
      omega

theorem exists_valid_with_total_iff (n : Int) :
    (∃ numeral : Numeral, numeral.IsValid ∧ numeral.total = n) ↔ 0 < n := by
  constructor
  · rintro ⟨numeral, hvalid, rfl⟩
    exact (isValid_iff_regular.mp hvalid).total_pos
  · intro hn
    obtain ⟨numeral, hvalid, htotal⟩ := exists_valid_with_total (n := n.toNat) (by omega)
    exact ⟨numeral, hvalid, by omega⟩

end Numeral
end RomanTrade
