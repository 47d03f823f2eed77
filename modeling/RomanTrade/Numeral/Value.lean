import RomanTrade.Fault

/-!
# Values of numerals

A valid numeral has a value: a symbol counts for itself, or against the total when a larger symbol
follows it.  The total is kept in 32 bits.  In the other direction every number from 1 to 3999 has
its canonical numeral.
-/

namespace RomanTrade
namespace Numeral

/-- The sum of the symbols, each counted negatively when a larger one follows. -/
def total : Numeral → Int
  | [] => 0
  | [symbol] => symbol.value
  | symbol :: next :: rest =>
    (if symbol.value < next.value then -(symbol.value : Int) else symbol.value) +
      total (next :: rest)

/-- A total as a count of 32 bits. -/
def wordOfTotal (total : Int) : Nat :=
  (total % 0x100000000).toNat

def toDecimal (numeral : Numeral) : Except Fault Nat :=
  match numeral.violation? with
  | some violation => .error (.invalidNumeral numeral.text violation)
  | none => .ok (wordOfTotal numeral.total)

def ofText (written : String) : Except Fault Numeral :=
  match ofText? written with
  | some numeral => .ok numeral
  | none => .error (.unknownSymbol written)

/-- What a numeral may be composed of, from the largest value to the smallest. -/
def parts : List (Nat × Numeral) :=
  [(1000, [.M]), (900, [.C, .M]), (500, [.D]), (400, [.C, .D]), (100, [.C]), (90, [.X, .C]),
   (50, [.L]), (40, [.X, .L]), (10, [.X]), (9, [.I, .X]), (5, [.V]), (4, [.I, .V]), (1, [.I])]

/-- Writes `n` with the given parts, each as often as it fits. -/
def compose : List (Nat × Numeral) → Nat → Numeral
  | [], _ => []
  | (value, symbols) :: rest, n =>
    (List.replicate (n / value) symbols).flatten ++ compose rest (n % value)

def largest : Nat := 3999

def ofNat (n : Nat) : Except Fault Numeral :=
  if n = 0 ∨ largest < n then .error (.numeralOutOfRange n) else .ok (compose parts n)

end Numeral

/-- Reads a symbol; anything but its one capital letter is refused. -/
def Symbol.ofText (written : String) : Except Fault Symbol :=
  match ofText? written with
  | some symbol => .ok symbol
  | none =>
    .error (.unknownSymbol s!"'{Text.trim written}'. Valid symbols: {letterList}")

end RomanTrade
