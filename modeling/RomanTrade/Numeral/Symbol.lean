/-!
# Roman symbols

The seven symbols, their values, and which of them may repeat or be subtracted.
-/

namespace RomanTrade

inductive Symbol where
  | I | V | X | L | C | D | M
  deriving DecidableEq, Repr

namespace Symbol

def all : List Symbol := [I, V, X, L, C, D, M]

def value : Symbol → Nat
  | I => 1
  | V => 5
  | X => 10
  | L => 50
  | C => 100
  | D => 500
  | M => 1000

def letter : Symbol → Char
  | I => 'I'
  | V => 'V'
  | X => 'X'
  | L => 'L'
  | C => 'C'
  | D => 'D'
  | M => 'M'

def text (symbol : Symbol) : String :=
  String.singleton symbol.letter

def ofLetter? (c : Char) : Option Symbol :=
  all.find? fun symbol => symbol.letter == c

/-- A symbol is written as its one capital letter and in no other way. -/
def ofText? (written : String) : Option Symbol :=
  match written.toList with
  | [c] => ofLetter? c
  | _ => none

/-- I, X, C and M may stand up to three times in a row. -/
def isRepeatable : Symbol → Bool
  | I | X | C | M => true
  | V | L | D => false

/-- V, L and D may stand at most once in a numeral. -/
def isSingle (symbol : Symbol) : Bool :=
  !symbol.isRepeatable

/-- Whether `smaller`, written directly before `larger`, makes one of the six subtractive pairs. -/
def subtractsFrom (smaller larger : Symbol) : Bool :=
  match smaller, larger with
  | I, V | I, X | X, L | X, C | C, D | C, M => true
  | _, _ => false

def below (symbol : Symbol) : List Symbol :=
  all.filter fun other => other.value < symbol.value

def letterList : String :=
  ", ".intercalate (all.map text)

theorem mem_all (symbol : Symbol) : symbol ∈ all := by
  cases symbol <;> decide

theorem ofLetter?_letter (symbol : Symbol) : ofLetter? symbol.letter = some symbol := by
  cases symbol <;> decide

theorem ofLetter?_eq_some_iff {c : Char} {symbol : Symbol} :
    ofLetter? c = some symbol ↔ c = symbol.letter := by
  constructor
  · intro h
    have hletter := List.find?_some h
    exact (beq_iff_eq.mp hletter).symm
  · rintro rfl
    exact ofLetter?_letter symbol

end Symbol
end RomanTrade
