import RomanTrade.Fault

/-!
# The line loop

The loop shows a prompt, reads one line and hands it on, until the input ends, something fails or
the line says that it was the last.  What is shown and what a line does is up to a `LineFlow`.
-/

namespace RomanTrade

inductive ReadResult where
  | line (text : String)
  | endOfInput
  | interrupted
  | failed (cause : FileFault)
  deriving DecidableEq, Repr

inductive Signal where
  | proceed
  | finish
  | fail (fault : Fault)
  /-- The program cannot go on: Credits were to be divided by a quantity of zero. -/
  | collapse
  deriving DecidableEq, Repr

inductive Ending where
  | finished
  | failed (fault : Fault)
  | collapsed
  deriving DecidableEq, Repr

structure LineFlow (m : Type → Type) where
  render : m (Except Fault Unit)
  handle : String → m Signal

namespace LineFlow

variable {m : Type → Type} [Monad m]

/-- Hands a line on, without the blanks at its ends; gives the ending if it was the last line. -/
def react (flow : LineFlow m) : ReadResult → m (Option Ending)
  | .endOfInput | .interrupted => return some .finished
  | .failed cause => return some (.failed (.file cause))
  | .line text => do
    match ← flow.handle (Text.trim text) with
    | .proceed => return none
    | .finish => return some .finished
    | .fail fault => return some (.failed fault)
    | .collapse => return some .collapsed

def turn (flow : LineFlow m) (read : m ReadResult) : m (Option Ending) := do
  match ← flow.render with
  | .error fault => return some (.failed fault)
  | .ok () => flow.react (← read)

/-- Runs the loop over reads that are already known; behind the last of them the input ends. -/
def run (flow : LineFlow m) : List ReadResult → m Ending
  | [] => do
    match ← flow.turn (pure .endOfInput) with
    | some ending => return ending
    | none => return .finished
  | read :: rest => do
    match ← flow.turn (pure read) with
    | some ending => return ending
    | none => flow.run rest

end LineFlow

namespace ReadResult

def ofLineBytes (bytes : List UInt8) : ReadResult :=
  match String.fromUTF8? bytes.toByteArray with
  | some text => .line text
  | none => .failed .notText

/-- Cuts bytes into lines, each with the line feed that ends it. -/
def lineBytes : List UInt8 → List (List UInt8)
  | [] => []
  | b :: rest =>
    if b == 0x0a then [b] :: lineBytes rest
    else
      match lineBytes rest with
      | [] => [[b]]
      | first :: more => (b :: first) :: more

/-- What reading line by line gives for an input of known bytes. -/
def ofBytes (bytes : List UInt8) : List ReadResult :=
  (lineBytes bytes).map ofLineBytes

end ReadResult
end RomanTrade
