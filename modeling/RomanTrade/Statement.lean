import RomanTrade.Alphabet

/-!
# Statements

A line of tokens is classified by its last token, a question mark or `Credits`, and failing these by
a copula in second place.  `Statement.tokens` writes a statement as the line that it is read from.
-/

namespace RomanTrade

inductive Statement where
  | definition (definition : Definition)
  | priceFact (amount : List String) (material : String) (credits : Nat)
  | valueQuery (amount : List String)
  | priceQuery (amount : List String) (material : String)
  deriving DecidableEq, Repr

namespace Statement

/-- The largest number of Credits that can be stated. -/
def largestCredits : Nat := 0x7FFFFFFFFFFFFFFF

/-- Reads a number of Credits: ASCII digits only, without sign or separators. -/
def credits? (written : String) : Option Nat :=
  let digits := written.toList
  if digits.isEmpty || !digits.all Char.isDigit then none
  else
    let credits := digits.foldl (fun n c => 10 * n + (c.toNat - '0'.toNat)) 0
    if credits ≤ largestCredits then some credits else none

/-- What follows the given keywords at the start of a line. -/
def afterKeywords? : List Keyword → List String → Option (List String)
  | [], tokens => some tokens
  | keyword :: more, token :: rest =>
    if keyword.accepts token then afterKeywords? more rest else none
  | _ :: _, [] => none

def ofPriceFact (tokens : List String) : Except Fault Statement :=
  match tokens.reverse with
  | _ :: digits :: copula :: material :: amount =>
    if !Keyword.is.accepts copula then .error (.malformed tokens)
    else
      match credits? digits with
      | none => .error (.malformed tokens)
      | some credits =>
        if amount.any Keyword.isReserved then .error (.malformed tokens)
        else .ok (.priceFact amount.reverse material credits)
  | _ => .error (.malformed tokens)

def ofQuery (tokens : List String) : Except Fault Statement :=
  let body := tokens.dropLast
  match afterKeywords? [.how, .much, .is] body with
  | some amount =>
    if amount.isEmpty || amount.any Keyword.isReserved then .error (.malformed tokens)
    else .ok (.valueQuery amount)
  | none =>
    match afterKeywords? [.how, .many, .credits, .is] body with
    | some rest =>
      match rest.getLast? with
      | none => .error (.malformed tokens)
      | some material =>
        if rest.dropLast.any Keyword.isReserved then .error (.malformed tokens)
        else .ok (.priceQuery rest.dropLast material)
    | none => .error .unrecognized

def ofTokens (tokens : List String) : Except Fault Statement :=
  match tokens.getLast? with
  | none => .error (.malformed tokens)
  | some last =>
    if Keyword.question.accepts last then ofQuery tokens
    else if Keyword.credits.accepts last then ofPriceFact tokens
    else if tokens[1]?.any Keyword.is.accepts then
      (Definition.ofTokens tokens).map definition
    else .error .unrecognized

def tokens : Statement → List String
  | definition d => [d.token, Keyword.is.text, d.symbol.text]
  | priceFact amount material credits =>
    amount ++ [material, Keyword.is.text, toString credits, Keyword.credits.text]
  | valueQuery amount =>
    [Keyword.how.text, Keyword.much.text, Keyword.is.text] ++ amount ++ [Keyword.question.text]
  | priceQuery amount material =>
    [Keyword.how.text, Keyword.many.text, Keyword.credits.text, Keyword.is.text] ++ amount ++
      [material, Keyword.question.text]

end Statement
end RomanTrade
