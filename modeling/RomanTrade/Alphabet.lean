import RomanTrade.Keyword
import RomanTrade.Lexicon
import RomanTrade.Numeral.Value

/-!
# Alphabets and amounts

An alphabet holds the tokens that stand for symbols.  An amount is a list of tokens; it is resolved
token by token, and stops at the first token that still needs a definition.
-/

namespace RomanTrade

/-- A line that gives a token its symbol. -/
structure Definition where
  token : String
  symbol : Symbol
  deriving DecidableEq, Repr

/-- Reads a token, `is` and a symbol; any other layout refuses the whole line. -/
def Definition.ofTokens (tokens : List String) : Except Fault Definition :=
  match tokens with
  | [token, copula, written] =>
    if Keyword.is.accepts copula then
      match Symbol.ofText? written with
      | some symbol => .ok ⟨token, symbol⟩
      | none => .error (.malformed tokens)
    else .error (.malformed tokens)
  | _ => .error (.malformed tokens)

/-- What became of an amount: all of it was resolved, or a token has to be defined first. -/
inductive Resolution (α : Type) where
  | resolved (value : α)
  | missing (token : String)
  deriving DecidableEq, Repr

def Resolution.map {α β : Type} (f : α → β) : Resolution α → Resolution β
  | .resolved value => .resolved (f value)
  | .missing token => .missing token

abbrev Alphabet := Lexicon Symbol

namespace Alphabet

/-- The symbols of one token: its own symbol if it has one, else what it spells literally. -/
def reading? (alphabet : Alphabet) (token : String) : Option Numeral :=
  match alphabet.get? token with
  | some symbol => some [symbol]
  | none => (Numeral.ofText? token).filter fun literal => !literal.isEmpty

def resolve (alphabet : Alphabet) : List String → Resolution Numeral
  | [] => .resolved []
  | token :: rest =>
    match alphabet.reading? token with
    | none => .missing token
    | some symbols => (alphabet.resolve rest).map (symbols ++ ·)

/-- The number that an amount stands for.  A numeral that breaks a rule is reported by the tokens
that were written. -/
def evaluate (alphabet : Alphabet) (tokens : List String) : Except Fault (Resolution Nat) :=
  match alphabet.resolve tokens with
  | .missing token => .ok (.missing token)
  | .resolved numeral =>
    match numeral.violation? with
    | some violation => .error (.invalidNumeral (Text.joinWords tokens) violation)
    | none => .ok (.resolved (Numeral.wordOfTotal numeral.total))

end Alphabet
end RomanTrade
