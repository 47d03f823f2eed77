import RomanTrade.Json.Problem

/-!
# Strings of a document

A string is read character by character by a small machine whose state says what part of an escape
has been seen.  `escaped` writes a string so that the machine reads it back.
-/

namespace RomanTrade
namespace Json

/-- What a string is read for: its text, or only its end. -/
inductive Care where
  | kept
  | ignored
  deriving DecidableEq, Repr

/-- Where the reader stands inside a string. -/
inductive TextState where
  | plain
  | escape
  /-- Inside the four hexadecimal digits of an escape, `left` of them still to come.  `high` is the
  first half of a surrogate pair that waits for this escape. -/
  | hex (high : Option Nat) (left value : Nat)
  /-- After the first half of a surrogate pair. -/
  | needBackslash (high : Nat)
  /-- After the first half of a surrogate pair and a backslash. -/
  | needU (high : Nat)
  deriving DecidableEq, Repr

def hexDigit? (c : Char) : Option Nat :=
  if '0' ≤ c ∧ c ≤ '9' then some (c.toNat - 0x30)
  else if 'a' ≤ c ∧ c ≤ 'f' then some (c.toNat - 0x61 + 10)
  else if 'A' ≤ c ∧ c ≤ 'F' then some (c.toNat - 0x41 + 10)
  else none

def shortEscape? (c : Char) : Option Char :=
  if c = '\x22' ∨ c = '\x5c' ∨ c = '/' then some c
  else if c = 'b' then some '\x08'
  else if c = 'f' then some '\x0c'
  else if c = 'n' then some '\n'
  else if c = 'r' then some '\r'
  else if c = 't' then some '\t'
  else none

def isHighSurrogate (unit : Nat) : Bool := 0xD800 ≤ unit && unit ≤ 0xDBFF

def isLowSurrogate (unit : Nat) : Bool := 0xDC00 ≤ unit && unit ≤ 0xDFFF

/-- The state and the character after the last digit of an escape. -/
def finishEscape (care : Care) (high : Option Nat) (unit : Nat) :
    Except Problem (TextState × Option Char) :=
  match care, high with
  | .ignored, _ => .ok (.plain, none)
  | .kept, none =>
    if isLowSurrogate unit then .error .loneSurrogate
    else if isHighSurrogate unit then .ok (.needBackslash unit, none)
    else .ok (.plain, some (Char.ofNat unit))
  | .kept, some first =>
    if isLowSurrogate unit then
      let codePoint := (first - 0xD800) * 0x400 + (unit - 0xDC00) + 0x10000
      .ok (.plain, some (Char.ofNat codePoint))
    else .error .loneSurrogate

/-- One character inside a string; `following` is the input after it.  A digit that is not
hexadecimal is an invalid escape if four bytes were there to be read. -/
def textStep (care : Care) (state : TextState) (c : Char) (following : List Char) :
    Except Problem (TextState × Option Char) :=
  match state with
  | .plain =>
    if c = '\x5c' then .ok (.escape, none)
    else if c.toNat < 0x20 then .error .controlCharacter
    else .ok (.plain, some c)
  | .escape =>
    if c = 'u' then .ok (.hex none 4 0, none)
    else
      match shortEscape? c with
      | some character => .ok (.plain, some character)
      | none => .error .invalidEscape
  | .hex high left value =>
    match hexDigit? c with
    | some digit =>
      let unit := 16 * value + digit
      if left ≤ 1 then finishEscape care high unit else .ok (.hex high (left - 1) unit, none)
    | none =>
      let available := (String.ofList (c :: following)).utf8ByteSize
      if left ≤ available then .error .invalidEscape else .error .endInString
  | .needBackslash high =>
    if c = '\x5c' then .ok (.needU high, none) else .error .unfinishedSurrogate
  | .needU high =>
    if c = 'u' then .ok (.hex (some high) 4 0, none) else .error .unfinishedSurrogate

/-- Reads a string from behind its opening quote; gives the text and the input after the closing
quote. -/
def readText (care : Care) (state : TextState) :
    List Char → Except Problem (List Char × List Char)
  | [] => .error .endInString
  | c :: rest =>
    if state = .plain ∧ c = '\x22' then .ok ([], rest)
    else
      match textStep care state c rest with
      | .error problem => .error problem
      | .ok (next, character) =>
        match readText care next rest with
        | .error problem => .error problem
        | .ok (text, after) => .ok (character.toList ++ text, after)

def readString (input : List Char) : Except Problem (String × List Char) :=
  match readText .kept .plain input with
  | .error problem => .error problem
  | .ok (text, after) => .ok (String.ofList text, after)

def hexPair (n : Nat) : List Char :=
  [Nat.digitChar (n / 16), Nat.digitChar (n % 16)]

def escapedChar (c : Char) : List Char :=
  if c = '\x22' ∨ c = '\x5c' then ['\x5c', c]
  else if c = '\x08' then ['\x5c', 'b']
  else if c = '\x0c' then ['\x5c', 'f']
  else if c = '\n' then ['\x5c', 'n']
  else if c = '\r' then ['\x5c', 'r']
  else if c = '\t' then ['\x5c', 't']
  else if c.toNat < 0x20 then ['\x5c', 'u', '0', '0'] ++ hexPair c.toNat
  else [c]

/-- A text as a string of a document, with its quotes. -/
def escaped (text : String) : String :=
  String.ofList (['\x22'] ++ text.toList.flatMap escapedChar ++ ['\x22'])

end Json
end RomanTrade
