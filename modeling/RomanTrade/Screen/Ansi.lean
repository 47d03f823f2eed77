/-!
# Terminal sequences

The control sequences that the screen uses, and the visible width of a text that holds such
sequences.  A sequence begins with escape and an opening bracket and ends with the first ASCII
letter.
-/

namespace RomanTrade
namespace Screen

/-- A control sequence: its introducer and what follows. -/
def sequence (body : String) : String := "\x1b[" ++ body

def clearLineRest : String := sequence "0K"

def cursorUp : String := sequence "1A"

def cursorColumn (column : Nat) : String := sequence s!"{column}G"

def resetStyle : String := sequence "0m"

def bold : String := sequence "1m"

def italic : String := sequence "3m"

def lightGray : String := sequence "37m"

def gold : String := sequence "33m"

def promptStyle : String := sequence "38;5;15m" ++ sequence "48;5;236m"

def escapeByte : UInt8 := 0x1b

def bracketByte : UInt8 := 0x5b

def isLetterByte (b : UInt8) : Bool :=
  (0x41 ≤ b && b ≤ 0x5a) || (0x61 ≤ b && b ≤ 0x7a)

/-- The bytes outside control sequences; `inside` says whether a sequence is open.  One that is not
closed reaches to the end. -/
def visibleBytes (inside : Bool) : List UInt8 → List UInt8
  | [] => []
  | b :: rest =>
    if inside then visibleBytes (!isLetterByte b) rest
    else if b == escapeByte && rest.head? == some bracketByte then visibleBytes true rest
    else b :: visibleBytes false rest

def visibleText (text : String) : String :=
  match String.fromUTF8? (visibleBytes false text.toUTF8.toList).toByteArray with
  | some visible => visible
  | none => text

def visibleWidth (text : String) : Nat :=
  (visibleText text).length

end Screen
end RomanTrade
