import RomanTrade.Json.Number
import RomanTrade.Json.Text

/-!
# Reading documents

The pieces that readers of documents share: white space, the three words, strings, the separators
of sequences and objects, and the description of a value that stands where another kind was due.
Every reader takes what it reads from the front of the input and hands on the rest.
-/

namespace RomanTrade
namespace Json

def isSpace (c : Char) : Bool :=
  c == ' ' || c == '\n' || c == '\t' || c == '\r'

def skipSpace (input : List Char) : List Char :=
  input.dropWhile isSpace

/-- Reads the remaining letters of one of the words `null`, `true` and `false`. -/
def readIdent (letters input : List Char) : Except Problem (List Char) :=
  match letters, input with
  | [], rest => .ok rest
  | _ :: _, [] => .error .endInValue
  | letter :: more, c :: rest => if c = letter then readIdent more rest else .error .expectedIdent

/-- The value at the head of the input, as far as a message describes it. -/
def describe (input : List Char) : Except Problem Found :=
  match input with
  | [] => .error .expectedValue
  | c :: rest =>
    if c = 'n' then (readIdent ['u', 'l', 'l'] rest).map fun _ => .null
    else if c = 't' then (readIdent ['r', 'u', 'e'] rest).map fun _ => .boolean true
    else if c = 'f' then (readIdent ['a', 'l', 's', 'e'] rest).map fun _ => .boolean false
    else if c = '-' || c.isDigit then
      match readNumber .endInValue input with
      | .error problem => .error problem
      | .ok (number, _) => number.found
    else if c = '\x22' then (readString rest).map fun (text, _) => .string text
    else if c = '[' then .ok .sequence
    else if c = '\x7b' then .ok .map
    else .error .expectedValue

def wrongKind (expected : String) (input : List Char) : Problem :=
  match describe input with
  | .ok found => .invalidType found expected
  | .error problem => problem

/-- Reads a string where one is due; `expected` describes what the string is for. -/
def readStringValue (expected : String) (input : List Char) :
    Except Problem (String × List Char) :=
  match skipSpace input with
  | [] => .error .endInValue
  | c :: rest =>
    if c = '\x22' then readString rest else .error (wrongKind expected (c :: rest))

def readNull (input : List Char) : Except Problem (List Char) :=
  match skipSpace input with
  | [] => .error .endInValue
  | c :: rest =>
    if c = 'n' then readIdent ['u', 'l', 'l'] rest else .error (wrongKind "unit" (c :: rest))

def readColon (input : List Char) : Except Problem (List Char) :=
  match skipSpace input with
  | [] => .error .endInObject
  | c :: rest => if c = ':' then .ok rest else .error .expectedColon

/-- Goes to the next element of a sequence; `isFirst` before the first one.  Gives the input at the
element, or none and the input at the closing bracket. -/
def nextElement (isFirst : Bool) (input : List Char) :
    Except Problem (Bool × List Char) :=
  match skipSpace input with
  | [] => .error .endInSequence
  | c :: rest =>
    if c = ']' then .ok (false, c :: rest)
    else if isFirst then .ok (true, c :: rest)
    else if c = ',' then
      match skipSpace rest with
      | [] => .error .endInValue
      | d :: more => if d = ']' then .error .trailingComma else .ok (true, d :: more)
    else .error .expectedCommaOrBracket

def closeSequence (input : List Char) : Except Problem (List Char) :=
  match skipSpace input with
  | [] => .error .endInSequence
  | c :: rest =>
    if c = ']' then .ok rest
    else if c = ',' then
      if (skipSpace rest).head? = some ']' then .error .trailingComma
      else .error .trailingCharacters
    else .error .trailingCharacters

/-- Goes to the next key of an object; `isFirst` before the first one.  Gives the key and the input
behind it, or none and the input behind the closing brace. -/
def nextKey (isFirst : Bool) (input : List Char) :
    Except Problem (Option String × List Char) :=
  match skipSpace input with
  | [] => .error .endInObject
  | c :: rest =>
    if c = '\x7d' then .ok (none, rest)
    else if isFirst then
      if c = '\x22' then (readString rest).map fun (key, after) => (some key, after)
      else .error .keyNotString
    else if c = ',' then
      match skipSpace rest with
      | [] => .error .endInValue
      | d :: more =>
        if d = '\x22' then (readString more).map fun (key, after) => (some key, after)
        else if d = '\x7d' then .error .trailingComma
        else .error .keyNotString
    else .error .expectedCommaOrBrace

def expectEnd (input : List Char) : Except Problem Unit :=
  if (skipSpace input).isEmpty then .ok () else .error .trailingCharacters

end Json
end RomanTrade
