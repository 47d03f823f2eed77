import RomanTrade.Policy
import RomanTrade.Session
import RomanTrade.Statement

/-!
# The interpreter

Statements are executed one at a time against a session.  A statement that meets an undefined token
learns and answers nothing: it is to be run again after the token has been defined.
-/

namespace RomanTrade

inductive Reply where
  /-- A fact was stored; the note describes it for the journal. -/
  | learned (note : String)
  | answer (text : String)
  /-- The token has to be defined before the statement can be finished. -/
  | missing (token : String)
  deriving DecidableEq, Repr

inductive Outcome where
  | replied (reply : Reply)
  | refused (fault : Fault)
  /-- Credits were to be divided by a quantity of zero, which ends the program. -/
  | zeroQuantity
  deriving DecidableEq, Repr

def missingPrompt (token : String) : String :=
  s!"missing information / invalid input: How much is {token} ?"

structure Interpreter where
  session : Session := {}
  policy : UnitPricePolicy := .allowFractional
  deriving DecidableEq

namespace Interpreter

/-- How a definition is noted, after the symbol that the token stood for before. -/
def definitionNote (definition : Definition) (previous : Option Symbol) : String :=
  match previous with
  | some old =>
    if old = definition.symbol then s!"Defined {definition.token} as {definition.symbol.text}"
    else s!"Redefined {definition.token} as {definition.symbol.text} (was {old.text})"
  | none => s!"Defined {definition.token} as {definition.symbol.text}"

def learnSymbol (interpreter : Interpreter) (definition : Definition) :
    Outcome × Interpreter :=
  match interpreter.session.define definition with
  | .error fault => (.refused fault, interpreter)
  | .ok (previous, session) =>
    (.replied (.learned (definitionNote definition previous)), { interpreter with session })

/-- Stores the price of one unit, once the quantity is known and the policy allows it. -/
def storePrice (interpreter : Interpreter) (material : String) (price : Price) :
    Outcome × Interpreter :=
  if interpreter.policy = .wholeCredits ∧ price.isWhole = false then
    (.refused (.fractionalUnitPrice material price.text), interpreter)
  else
    match interpreter.session.setPrice material price with
    | .error fault => (.refused fault, interpreter)
    | .ok (_, session) =>
      (.replied (.learned s!"Priced {material} at {price.text} Credits per unit"),
        { interpreter with session })

def learnPrice (interpreter : Interpreter) (amount : List String) (material : String)
    (credits : Nat) : Outcome × Interpreter :=
  match interpreter.session.checkMaterial material with
  | .error fault => (.refused fault, interpreter)
  | .ok () =>
    match interpreter.session.quantity amount with
    | .error fault => (.refused fault, interpreter)
    | .ok (.missing token) => (.replied (.missing token), interpreter)
    | .ok (.resolved units) =>
      match Price.ofRatio? credits units with
      | none => (.zeroQuantity, interpreter)
      | some price => interpreter.storePrice material price

def answerValue (session : Session) (amount : List String) : Outcome :=
  match session.evaluate amount with
  | .error fault => .refused fault
  | .ok (.missing token) => .replied (.missing token)
  | .ok (.resolved value) => .replied (.answer s!"{Text.joinWords amount} is {value}")

def priceAnswer (amount : List String) (material : String) (total : Price) : String :=
  s!"{Text.joinWords (amount ++ [material])} is {total.text} Credits"

def answerPrice (session : Session) (amount : List String) (material : String) : Outcome :=
  match session.unitPrice material with
  | .error fault => .refused fault
  | .ok price =>
    match session.quantity amount with
    | .error fault => .refused fault
    | .ok (.missing token) => .replied (.missing token)
    | .ok (.resolved units) =>
      match price.times? units with
      | none => .refused (.priceOverflow material)
      | some total => .replied (.answer (priceAnswer amount material total))

def run (interpreter : Interpreter) : Statement → Outcome × Interpreter
  | .definition definition => interpreter.learnSymbol definition
  | .priceFact amount material credits => interpreter.learnPrice amount material credits
  | .valueQuery amount => (answerValue interpreter.session amount, interpreter)
  | .priceQuery amount material => (answerPrice interpreter.session amount material, interpreter)

def execute (interpreter : Interpreter) (tokens : List String) : Outcome × Interpreter :=
  match Statement.ofTokens tokens with
  | .error fault => (.refused fault, interpreter)
  | .ok statement => interpreter.run statement

/-- Accepts a line that defines exactly the missing token; any other line is refused. -/
def supplyDefinition (interpreter : Interpreter) (missing : String) (tokens : List String) :
    Outcome × Interpreter :=
  match Definition.ofTokens tokens with
  | .error fault => (.refused fault, interpreter)
  | .ok definition =>
    if definition.token = missing then interpreter.learnSymbol definition
    else (.refused (.malformed tokens), interpreter)

end Interpreter
end RomanTrade
