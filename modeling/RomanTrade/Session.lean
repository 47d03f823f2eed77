import RomanTrade.Alphabet
import RomanTrade.Price
import RomanTrade.Text.Uppercase

/-!
# Sessions

What has been learned so far: the alphabet, and unit prices by material.  No name is ever both a
token and a priced material; `define` and `checkMaterial` guard the two sides.
-/

namespace RomanTrade

structure Session where
  alphabet : Alphabet := {}
  prices : Lexicon Price := {}
  deriving DecidableEq

namespace Session

/-- Learns a token; also gives the symbol that it stood for before. -/
def define (session : Session) (definition : Definition) :
    Except Fault (Option Symbol × Session) :=
  let token := definition.token
  if Keyword.isReserved token then .error (.reservedWord token)
  else if session.prices.contains token then .error (.tokenIsMaterial token)
  else
    .ok (session.alphabet.get? token,
      { session with alphabet := session.alphabet.insert token definition.symbol })

/-- A material is a capitalized word that is neither a keyword nor a token. -/
def isMaterialName (session : Session) (name : String) : Bool :=
  Text.isCapitalized name && !Keyword.isReserved name && !session.alphabet.contains name

def checkMaterial (session : Session) (name : String) : Except Fault Unit :=
  if session.isMaterialName name then .ok () else .error (.notAMaterial name)

/-- Stores a unit price; also gives the price that it replaces. -/
def setPrice (session : Session) (material : String) (price : Price) :
    Except Fault (Option Price × Session) :=
  match session.checkMaterial material with
  | .error fault => .error fault
  | .ok () =>
    .ok (session.prices.get? material,
      { session with prices := session.prices.insert material price })

def unitPrice (session : Session) (material : String) : Except Fault Price :=
  match session.checkMaterial material with
  | .error fault => .error fault
  | .ok () =>
    match session.prices.get? material with
    | some price => .ok price
    | none => .error (.unknownMaterial material)

/-- An amount never names a priced material. -/
def rejectMaterials (session : Session) (amount : List String) : Except Fault Unit :=
  if amount.any session.prices.contains then .error (.malformed amount) else .ok ()

/-- The number that a nonempty amount stands for. -/
def evaluate (session : Session) (amount : List String) : Except Fault (Resolution Nat) :=
  match session.rejectMaterials amount with
  | .error fault => .error fault
  | .ok () => session.alphabet.evaluate amount

/-- The number of units of an amount; no amount at all means one unit. -/
def quantity (session : Session) (amount : List String) : Except Fault (Resolution Nat) :=
  if amount.isEmpty then .ok (.resolved 1) else session.evaluate amount

end Session
end RomanTrade
