import RomanTrade.Json.Problem
import RomanTrade.Number.Binary64

/-!
# Numbers of a document

A number is cut from the input as its digits before and after the point and its exponent.  Its
value is an integer if it has neither point nor exponent and fits in 64 bits, else the floating-point
number that comes from scaling the leading digits.
-/

namespace RomanTrade
namespace Json

structure NumberText where
  isNegative : Bool
  whole : List Char
  fraction : Option (List Char)
  /-- Whether the exponent is negative, and its digits. -/
  exponent : Option (Bool × List Char)
  deriving DecidableEq, Repr

/-- At least one digit; `atEnd` is the problem if the input ends instead. -/
def readDigits (atEnd : Problem) (input : List Char) :
    Except Problem (List Char × List Char) :=
  match input with
  | [] => .error atEnd
  | c :: _ =>
    if c.isDigit then .ok (input.takeWhile Char.isDigit, input.dropWhile Char.isDigit)
    else .error .invalidNumber

/-- Digits without a superfluous zero in front. -/
def readWhole (atEnd : Problem) (input : List Char) :
    Except Problem (List Char × List Char) :=
  match readDigits atEnd input with
  | .error problem => .error problem
  | .ok (digits, rest) =>
    if digits.head? = some '0' ∧ 1 < digits.length then .error .invalidNumber
    else .ok (digits, rest)

def readFraction (atEnd : Problem) (input : List Char) :
    Except Problem (Option (List Char) × List Char) :=
  match input with
  | '.' :: rest => (readDigits atEnd rest).map fun (digits, after) => (some digits, after)
  | _ => .ok (none, input)

def readExponent (atEnd : Problem) (input : List Char) :
    Except Problem (Option (Bool × List Char) × List Char) :=
  match input with
  | mark :: rest =>
    if mark = 'e' ∨ mark = 'E' then
      let (isNegative, digitsOn) : Bool × List Char :=
        match rest with
        | '-' :: more => (true, more)
        | '+' :: more => (false, more)
        | _ => (false, rest)
      (readDigits atEnd digitsOn).map fun (digits, after) => (some (isNegative, digits), after)
    else .ok (none, input)
  | [] => .ok (none, input)

def readNumber (atEnd : Problem) (input : List Char) :
    Except Problem (NumberText × List Char) := do
  let (isNegative, unsigned) : Bool × List Char :=
    match input with
    | '-' :: rest => (true, rest)
    | _ => (false, input)
  let (whole, rest) ← readWhole atEnd unsigned
  let (fraction, rest) ← readFraction atEnd rest
  let (exponent, rest) ← readExponent atEnd rest
  return (⟨isNegative, whole, fraction, exponent⟩, rest)

/-! ### Values -/

def digitValue (c : Char) : Nat := c.toNat - '0'.toNat

/-- The largest significand that is collected. -/
def largestSignificand : Nat := 0xFFFFFFFFFFFFFFFF

/-- Appends digits to a significand while it stays within 64 bits; gives the significand and the
digits that were left over. -/
def collect (significand : Nat) : List Char → Nat × List Char
  | [] => (significand, [])
  | c :: rest =>
    let next := 10 * significand + digitValue c
    if next ≤ largestSignificand then collect next rest else (significand, c :: rest)

/-- The exponents of ten that one multiplication reaches. -/
def largestPower : Nat := 308

def powerOfTen (exponent : Nat) : Binary64 :=
  (Binary64.nearest? (Nat.pow 10 exponent) 1).getD Binary64.zero

/-- Scales down by `10 ^ exponent`, in steps of the largest power. -/
def scaleDown (x : Binary64) (exponent : Nat) : Nat → Binary64
  | 0 => Binary64.zero
  | steps + 1 =>
    if exponent ≤ largestPower then (x.over? (powerOfTen exponent)).getD Binary64.zero
    else
      scaleDown ((x.over? (powerOfTen largestPower)).getD Binary64.zero)
        (exponent - largestPower) steps

/-- The floating-point number `significand * 10 ^ exponent`; none if it is too large.  Three steps
down reach zero from any significand. -/
def scaled? (significand : Nat) (exponent : Int) : Option Binary64 :=
  match Binary64.nearest? significand 1 with
  | none => none
  | some x =>
    if exponent < 0 then some (scaleDown x (-exponent).toNat 3)
    else if exponent ≤ largestPower then x.times? (powerOfTen exponent.toNat)
    else if significand = 0 then some Binary64.zero
    else none

/-- The exponent that is written, within 32 bits, or its sign if it is beyond them. -/
def exponentValue (isNegative : Bool) (digits : List Char) : Except Bool Int :=
  let magnitude := digits.foldl (fun n c => 10 * n + digitValue c) 0
  if 0x80000000 ≤ magnitude then .error isNegative
  else .ok (if isNegative then -(magnitude : Int) else magnitude)

def addExponents (x y : Int) : Int :=
  max (-0x80000000) (min 0x7FFFFFFF (x + y))

/-- The significand of a number and the exponent of ten that its digits leave to it. -/
def NumberText.significand (number : NumberText) : Nat × Int :=
  let (whole, left) := collect 0 number.whole
  let (all, unread) := collect whole (number.fraction.getD [])
  let places := (number.fraction.getD []).length - unread.length
  (all, (left.length : Int) - places)

def floatText (isNegative : Bool) (x : Binary64) : String :=
  if isNegative then "-" ++ x.text else x.text

/-- A number that is not an integer of 64 bits. -/
def NumberText.float (number : NumberText) : Except Problem Found :=
  let (significand, exponent) := number.significand
  let result : Option Binary64 :=
    match number.exponent with
    | none => scaled? significand exponent
    | some (isNegative, digits) =>
      match exponentValue isNegative digits with
      | .ok written => scaled? significand (addExponents exponent written)
      | .error true => some Binary64.zero
      | .error false => if significand = 0 then some Binary64.zero else none
  match result with
  | some x => .ok (.float (floatText number.isNegative x))
  | none => .error .numberOutOfRange

/-- The value of a number, as a message describes it. -/
def NumberText.found (number : NumberText) : Except Problem Found :=
  let value := number.whole.foldl (fun n c => 10 * n + digitValue c) 0
  if number.fraction.isSome || number.exponent.isSome then number.float
  else if number.isNegative then
    if 0 < value ∧ value ≤ 0x8000000000000000 then .ok (.integer (-value)) else number.float
  else if value ≤ largestSignificand then .ok (.integer value)
  else number.float

end Json
end RomanTrade
