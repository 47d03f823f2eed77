/-!
# Prices

A price is an exact ratio of Credits.  Numerators are kept in 64 bits: a product that needs more
does not exist.  Whole prices are written as integers, terminating ones as decimals with no more
digits than they need, all others as fractions.  The digits of a decimal are computed in 128 bits,
where products wrap around.
-/

namespace RomanTrade

structure Price where
  credits : Rat
  deriving DecidableEq

namespace Price

def fitsWord (n : Int) : Bool :=
  -0x8000000000000000 ≤ n && n < 0x8000000000000000

/-- The price of one unit when `units` of them cost `credits`; none for no units at all. -/
def ofRatio? (credits units : Int) : Option Price :=
  if units = 0 then none else some ⟨Rat.divInt credits units⟩

def isWhole (price : Price) : Bool :=
  price.credits.den == 1

/-- The price of several units.  What the number of units shares with the denominator is cancelled
before the multiplication, so only a result that does not fit is refused. -/
def times? (price : Price) (units : Nat) : Option Price :=
  let shared := Nat.gcd price.credits.den units
  let numer := price.credits.num * (units / shared : Nat)
  if fitsWord numer then some ⟨mkRat numer (price.credits.den / shared)⟩ else none

/-- Divides by a factor as long as it divides evenly: what is left then, and the count of the
divisions.  Every factor divides zero, which is no denominator and stays as it is. -/
def stripFactor (factor rest count : Nat) : Nat × Nat :=
  if h : rest % factor = 0 ∧ 1 < factor ∧ 0 < rest then
    stripFactor factor (rest / factor) (count + 1)
  else (rest, count)
termination_by rest
decreasing_by exact Nat.div_lt_self h.2.2 h.2.1

/-- The digits behind the point when the denominator has no factors but 2 and 5. -/
def decimalPlaces? (denom : Nat) : Option Nat :=
  let (odd, twos) := stripFactor 2 denom 0
  let (rest, fives) := stripFactor 5 odd 0
  if rest = 1 then some (max twos fives) else none

/-- The decimal digits of `n`, with zeros in front up to `width` characters. -/
def paddedDigits (width n : Nat) : String :=
  let digits := Nat.toDigits 10 n
  String.ofList (List.replicate (width - digits.length) '0' ++ digits)

/-- The sign counts as one of the characters. -/
def paddedInteger (width : Nat) (n : Int) : String :=
  if n < 0 then "-" ++ paddedDigits (width - 1) n.natAbs else paddedDigits width n.natAbs

/-- An integer as 128 bits with sign hold it. -/
def wideWord (n : Int) : Int :=
  n.bmod 0x100000000000000000000000000000000

def text (price : Price) : String :=
  let numer := price.credits.num
  let denom := price.credits.den
  if denom = 1 then toString numer
  else
    match decimalPlaces? denom with
    | none => s!"{numer}/{denom}"
    | some places =>
      let sign := if numer < 0 then "-" else ""
      let scale := wideWord (Nat.pow 10 places)
      let scaled := (wideWord (numer.natAbs * scale)).tdiv denom
      let whole := scaled.tdiv scale
      let fraction := paddedInteger places (scaled.tmod scale)
      s!"{sign}{whole}.{fraction}"

end Price
end RomanTrade
