/-!
# Binary numbers of 53 bits

Nonnegative binary floating-point numbers with exact rounding, and the shortest decimal that reads
back as such a number.  Everything is computed on natural numbers.
-/

namespace RomanTrade

/-- The number `mantissa * 2 ^ exponent`, with a mantissa below `2 ^ 53`. -/
structure Binary64 where
  mantissa : Nat
  exponent : Int
  deriving DecidableEq, Repr

namespace Binary64

def leastExponent : Int := -1074

/-- The least mantissa of a number that is not among the smallest ones. -/
def leastMantissa : Nat := 0x10000000000000

def zero : Binary64 := ⟨0, leastExponent⟩

/-- The quotient rounded to the nearest natural number, a half to the even neighbour. -/
def roundedQuotient (num den : Nat) : Nat :=
  let quotient := num / den
  let twice := 2 * (num % den)
  if twice < den then quotient
  else if den < twice then quotient + 1
  else quotient + quotient % 2

/-- The number nearest to `num / den`; none if that is too large for the format. -/
def nearest? (num den : Nat) : Option Binary64 :=
  if num = 0 then some zero
  else
    let magnitude : Int := (num.log2 : Int) - den.log2
    let isBelow :=
      num * Nat.pow 2 (-magnitude).toNat < den * Nat.pow 2 magnitude.toNat
    let exponent := max leastExponent (magnitude - (if isBelow then 53 else 52))
    let mantissa := roundedQuotient (num * Nat.pow 2 (-exponent).toNat)
      (den * Nat.pow 2 exponent.toNat)
    let rounded : Binary64 :=
      if mantissa = leastMantissa * 2 then ⟨leastMantissa, exponent + 1⟩ else ⟨mantissa, exponent⟩
    if 971 < rounded.exponent then none else some rounded

def numerator (x : Binary64) : Nat := x.mantissa * Nat.pow 2 x.exponent.toNat

def denominator (x : Binary64) : Nat := Nat.pow 2 (-x.exponent).toNat

def times? (x y : Binary64) : Option Binary64 :=
  nearest? (x.numerator * y.numerator) (x.denominator * y.denominator)

def over? (x y : Binary64) : Option Binary64 :=
  nearest? (x.numerator * y.denominator) (x.denominator * y.numerator)

/-! ### Shortest decimals -/

structure Decimal where
  digits : Nat
  exponent : Int
  deriving DecidableEq, Repr

/-- Whether a decimal rounds to `x`: it lies between the points halfway to the neighbours of `x`,
which belong to `x` exactly if its mantissa is even. -/
def roundsFrom (x : Binary64) (decimal : Decimal) : Bool :=
  let scale := decimal.exponent.toNat
  let num := decimal.digits * Nat.pow 10 scale * x.denominator * 4
  let unit := Nat.pow 10 (-decimal.exponent).toNat * Nat.pow 2 x.exponent.toNat
  let centre := 4 * x.mantissa * unit
  let below := if x.mantissa = leastMantissa ∧ leastExponent < x.exponent then unit else 2 * unit
  let low := centre - below
  let high := centre + 2 * unit
  if x.mantissa % 2 = 0 then low ≤ num && num ≤ high else low < num && num < high

/-- The larger power of ten not above `num / den`, as an exponent. -/
def decimalMagnitude (num den : Nat) : Int :=
  if den ≤ num then ((Nat.toDigits 10 (num / den)).length : Int) - 1
  else -((Nat.toDigits 10 ((den - 1) / num)).length : Int)

/-- A decimal of `count` digits; rounding up may have carried into one digit more. -/
def Decimal.carried (count : Nat) (decimal : Decimal) : Decimal :=
  if decimal.digits = Nat.pow 10 count then ⟨Nat.pow 10 (count - 1), decimal.exponent + 1⟩
  else decimal

/-- The decimal of `count` digits next to `x` that reads back as `x`, the nearer one if two do. -/
def withDigits? (x : Binary64) (count : Nat) : Option Decimal :=
  let exponent := decimalMagnitude x.numerator x.denominator - count + 1
  let num := x.numerator * Nat.pow 10 (-exponent).toNat
  let den := x.denominator * Nat.pow 10 exponent.toNat
  let lower : Decimal := ⟨num / den, exponent⟩
  let upper : Decimal := ⟨num / den + 1, exponent⟩
  let choice : Option Decimal :=
    match x.roundsFrom lower, x.roundsFrom upper with
    | false, false => none
    | true, false => some lower
    | false, true => some upper
    | true, true => some ⟨roundedQuotient num den, exponent⟩
  choice.map (Decimal.carried count)

/-- The shortest decimal that reads back as `x`. -/
def shortest (x : Binary64) : Decimal :=
  if x.mantissa = 0 then ⟨0, 0⟩
  else ((List.range' 1 17).findSome? x.withDigits?).getD ⟨0, 0⟩

/-- The number in decimal notation: positional with a point below `10 ^ 16` and from `10 ^ -5`, with
a signed exponent otherwise. -/
def text (x : Binary64) : String :=
  let decimal := x.shortest
  let digits := Nat.toDigits 10 decimal.digits
  let point : Int := digits.length + decimal.exponent
  let zeros (count : Int) : List Char := List.replicate count.toNat '0'
  let characters :=
    if decimal.digits = 0 then ['0', '.', '0']
    else if 0 ≤ decimal.exponent ∧ point ≤ 16 then
      digits ++ zeros decimal.exponent ++ ['.', '0']
    else if 0 < point ∧ point ≤ 16 then
      digits.take point.toNat ++ '.' :: digits.drop point.toNat
    else if -5 < point ∧ point ≤ 0 then
      ['0', '.'] ++ zeros (-point) ++ digits
    else
      let fraction := if digits.length = 1 then [] else '.' :: digits.drop 1
      let sign := if 0 < point then ['+'] else []
      digits.take 1 ++ fraction ++ 'e' :: sign ++ (toString (point - 1)).toList
  String.ofList characters

end Binary64
end RomanTrade
