import RomanTrade.Text.JoiningMark
import RomanTrade.Text.Unprintable

/-!
# Quoted texts

Messages show a text between double quotes.  Quotes, backslashes and the usual controls get short
escapes.  Characters that do not print by themselves, and marks that would join the character in
front of them, are shown by their code point.
-/

namespace RomanTrade
namespace Text

/-- A character by its code point, in hexadecimal. -/
def codePointEscape (c : Char) : String :=
  "\\u\x7b" ++ String.ofList (Nat.toDigits 16 c.toNat) ++ "\x7d"

def quotedChar (c : Char) : String :=
  if c == '\x00' then "\\0"
  else if c == '\t' then "\\t"
  else if c == '\n' then "\\n"
  else if c == '\r' then "\\r"
  else if c == '\x22' || c == '\x5c' then String.ofList ['\x5c', c]
  else if isJoiningMark c || isUnprintable c then codePointEscape c
  else String.singleton c

def quoted (text : String) : String :=
  "\"" ++ String.join (text.toList.map quotedChar) ++ "\""

end Text
end RomanTrade
