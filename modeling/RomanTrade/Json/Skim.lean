import RomanTrade.Json.Reader

/-!
# Values that are only passed over

A value whose content is of no use is still checked.  With `Care.ignored` it may nest to any depth,
its escapes need not form characters and its numbers may be of any size; with `Care.kept` it is
checked as if it were to be kept.
-/

namespace RomanTrade
namespace Json

inductive Bracket where
  | sequence
  | object
  deriving DecidableEq, Repr

def Bracket.closing : Bracket → Char
  | .sequence => ']'
  | .object => '\x7d'

/-- What may come next while a value is passed over. -/
inductive Expectation where
  | value
  /-- Behind an opening bracket: the first element or the closing bracket. -/
  | firstOrClose
  /-- Behind an element: a comma or the closing bracket. -/
  | commaOrClose
  deriving DecidableEq, Repr

/-- Nesting from this depth on is refused in values that are kept. -/
def depthLimit : Nat := 128

def skimScalar (care : Care) (c : Char) (rest : List Char) : Except Problem (List Char) :=
  if c = 'n' then readIdent ['u', 'l', 'l'] rest
  else if c = 't' then readIdent ['r', 'u', 'e'] rest
  else if c = 'f' then readIdent ['a', 'l', 's', 'e'] rest
  else if c = '\x22' then (readText care .plain rest).map Prod.snd
  else if c = '-' || c.isDigit then
    match care with
    | .ignored => (readNumber .invalidNumber (c :: rest)).map Prod.snd
    | .kept =>
      match readNumber .endInValue (c :: rest) with
      | .error problem => .error problem
      | .ok (number, after) => number.found.map fun _ => after
  else .error .expectedValue

/-- Passes over a key and its colon, where a key is due.  `afterComma` tells the first key of an
object from the later ones. -/
def skimKey (care : Care) (afterComma : Bool) (input : List Char) :
    Except Problem (List Char) :=
  match skipSpace input with
  | [] =>
    .error (if care = .kept ∧ afterComma then .endInValue else .endInObject)
  | c :: rest =>
    if c = '\x22' then
      match readText care .plain rest with
      | .error problem => .error problem
      | .ok (_, after) => readColon after
    else if care = .kept ∧ afterComma ∧ c = '\x7d' then .error .trailingComma
    else .error .keyNotString

def skimTo (care : Care) (afterComma : Bool) (bracket : Bracket) (input : List Char) :
    Except Problem (List Char) :=
  match bracket with
  | .object => skimKey care afterComma input
  | .sequence =>
    if care = .kept ∧ afterComma ∧ (skipSpace input).head? = some ']' then .error .trailingComma
    else .ok input

/-- Passes over a value.  `brackets` are the open ones, the innermost first. -/
def skim (care : Care) : Nat → Expectation → List Bracket → List Char →
    Except Problem (List Char)
  | 0, _, _, _ => .error .endInValue
  | fuel + 1, .value, brackets, input =>
    match skipSpace input with
    | [] => .error .endInValue
    | c :: rest =>
      if c = '[' ∨ c = '\x7b' then
        if care = .kept ∧ depthLimit ≤ brackets.length + 1 then .error .tooDeep
        else
          let bracket := if c = '[' then Bracket.sequence else .object
          skim care fuel .firstOrClose (bracket :: brackets) rest
      else
        match skimScalar care c rest with
        | .error problem => .error problem
        | .ok after =>
          if brackets.isEmpty then .ok after else skim care fuel .commaOrClose brackets after
  | _ + 1, _, [], input => .ok input
  | fuel + 1, expectation, bracket :: outer, input =>
    match skipSpace input with
    | [] =>
      .error (match bracket with | .sequence => .endInSequence | .object => .endInObject)
    | c :: rest =>
      if c = bracket.closing then
        if outer.isEmpty then .ok rest else skim care fuel .commaOrClose outer rest
      else if expectation = .firstOrClose then
        match skimTo care false bracket (c :: rest) with
        | .error problem => .error problem
        | .ok after => skim care fuel .value (bracket :: outer) after
      else if c = ',' then
        match skimTo care true bracket rest with
        | .error problem => .error problem
        | .ok after => skim care fuel .value (bracket :: outer) after
      else
        .error (match bracket with
          | .sequence => .expectedCommaOrBracket
          | .object => .expectedCommaOrBrace)

/-- Passes over a value.  Each character of the input is met at most twice. -/
def skimValue (care : Care) (input : List Char) : Except Problem (List Char) :=
  skim care (2 * input.length + 2) .value [] input

def checkDocument (document : String) : Except Problem Unit :=
  match skimValue .kept document.toList with
  | .error problem => .error problem
  | .ok rest => expectEnd rest

end Json
end RomanTrade
