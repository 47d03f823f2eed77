import RomanTrade.Numeral.Symbol

/-!
# Numerals and their validity

A numeral is any sequence of symbols.  `validate` checks the writing rules one after the other and
reports the first rule that is broken: single symbols, then runs for each repeatable symbol, then
subtractive pairs from left to right.
-/

namespace RomanTrade

abbrev Numeral := List Symbol

/-- The ways in which a text or a sequence of symbols fails to be a numeral. -/
inductive Violation where
  | empty
  | unknownCharacter (c : Char)
  | repeatedSingle (symbol : Symbol)
  | runTooLong (symbol : Symbol)
  /-- A run, one smaller symbol, then two or more of the first symbol again, as in `XIXX`. -/
  | runResumed (symbol : Symbol)
  | illegalSubtraction (smaller larger : Symbol)
  /-- Two symbols in front of `larger` are both smaller than it. -/
  | doubleSubtraction (larger : Symbol)
  deriving DecidableEq, Repr

def Violation.message : Violation → String
  | .empty => "empty numeral"
  | .unknownCharacter c => s!"'{c}' is not a roman symbol"
  | .repeatedSingle symbol => s!"{symbol.text} may appear only once"
  | .runTooLong symbol => s!"{symbol.text} repeated more than three times"
  | .runResumed symbol => s!"{symbol.text} repeated again after a subtraction"
  | .illegalSubtraction smaller larger =>
    s!"{smaller.text} cannot be subtracted from {larger.text}"
  | .doubleSubtraction larger => s!"more than one symbol subtracted from {larger.text}"

namespace Numeral

def text (numeral : Numeral) : String :=
  String.ofList (numeral.map Symbol.letter)

/-- Reads a text of symbol letters; the empty text is the empty numeral. -/
def ofText? (written : String) : Option Numeral :=
  written.toList.mapM Symbol.ofLetter?

/-- The maximal runs of equal symbols, each with its length. -/
def runs : Numeral → List (Symbol × Nat)
  | [] => []
  | symbol :: rest =>
    match runs rest with
    | (next, length) :: more =>
      if symbol = next then (next, length + 1) :: more else (symbol, 1) :: (next, length) :: more
    | [] => [(symbol, 1)]

def repeatedSingle? (numeral : Numeral) : Option Violation :=
  (Symbol.all.find? fun symbol => symbol.isSingle && 1 < numeral.count symbol).map
    Violation.repeatedSingle

/-- What is wrong with the run at the head: it is too long, or one smaller symbol follows and then
at least two of the same symbol. -/
def headRun? (symbol : Symbol) : List (Symbol × Nat) → Option Violation
  | (first, length) :: rest =>
    if first ≠ symbol then none
    else if 4 ≤ length then some (.runTooLong symbol)
    else
      match rest with
      | (between, 1) :: (resumed, again) :: _ =>
        if between.value < symbol.value ∧ resumed = symbol ∧ 2 ≤ again then
          some (.runResumed symbol)
        else none
      | _ => none
  | [] => none

def brokenRun? (symbol : Symbol) : List (Symbol × Nat) → Option Violation
  | [] => none
  | run :: rest => (headRun? symbol (run :: rest)).or (brokenRun? symbol rest)

/-- What is wrong with `left` before `right`, where `before` is the symbol to the left of both. -/
def pairFault? (before : Option Symbol) (left right : Symbol) : Option Violation :=
  if right.value ≤ left.value then none
  else if !left.subtractsFrom right then some (.illegalSubtraction left right)
  else if before.any fun symbol => symbol.value < right.value then some (.doubleSubtraction right)
  else none

def brokenPair? (before : Option Symbol) : Numeral → Option Violation
  | left :: right :: rest =>
    (pairFault? before left right).or (brokenPair? (some left) (right :: rest))
  | _ => none

def violation? (numeral : Numeral) : Option Violation :=
  if numeral.isEmpty then some .empty
  else
    (repeatedSingle? numeral).or <|
    (((Symbol.all.filter Symbol.isRepeatable).findSome? fun symbol =>
      brokenRun? symbol numeral.runs)).or <|
    brokenPair? none numeral

def validate (numeral : Numeral) : Except Violation Unit :=
  match numeral.violation? with
  | some violation => .error violation
  | none => .ok ()

def IsValid (numeral : Numeral) : Prop :=
  numeral.violation? = none

instance (numeral : Numeral) : Decidable numeral.IsValid :=
  inferInstanceAs (Decidable (numeral.violation? = none))

end Numeral

def isValidNumeral (written : String) : Bool :=
  (Numeral.ofText? written).any fun numeral => decide numeral.IsValid

end RomanTrade
