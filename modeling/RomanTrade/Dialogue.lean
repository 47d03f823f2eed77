import RomanTrade.Interpreter
import RomanTrade.Journal
import RomanTrade.LineLoop

/-!
# The dialogue

A dialogue feeds lines to the interpreter.  When a statement stops at an undefined token, the
dialogue keeps the statement and takes the following lines as answers until one of them defines the
token; then the statement is run again.
-/

namespace RomanTrade

inductive Stage where
  | ready
  /-- `pending` stopped at `token`; the next line has to define it. -/
  | awaiting (token : String) (pending : List String)
  deriving DecidableEq, Repr

structure Dialogue where
  interpreter : Interpreter := {}
  stage : Stage := .ready
  deriving DecidableEq

/-- What a line led to: messages in order, what the loop is to do, and the dialogue after it. -/
structure Heard where
  messages : List Message := []
  signal : Signal := .proceed
  dialogue : Dialogue
  deriving DecidableEq

/-- Messages that come before what a line led to. -/
def Heard.after (messages : List Message) (heard : Heard) : Heard :=
  { heard with messages := messages ++ heard.messages }

namespace Message

def note (text : String) : Message := ⟨.info, text, .file⟩

def remark (text : String) : Message := ⟨.warn, text, .file⟩

def reply (text : String) : Message := ⟨.info, text, .both⟩

def refusal (text : String) : Message := ⟨.warn, text, .both⟩

end Message

namespace Dialogue

/-- Asks for the definition of a token while `pending` waits. -/
def ask (interpreter : Interpreter) (token : String) (pending : List String) : Heard where
  messages := [.reply (missingPrompt token)]
  dialogue := ⟨interpreter, .awaiting token pending⟩

def takeReply (interpreter : Interpreter) (reply : Reply) (tokens : List String) : Heard :=
  match reply with
  | .learned note => { messages := [.note note], dialogue := ⟨interpreter, .ready⟩ }
  | .answer text => { messages := [.reply text], dialogue := ⟨interpreter, .ready⟩ }
  | .missing token => ask interpreter token tokens

/-- A definition whose third word is not a symbol is remarked on with the list of symbols. -/
def badSymbolRemark (tokens : List String) : List Message :=
  match tokens with
  | [_, copula, written] =>
    if Keyword.is.accepts copula then
      match Symbol.ofText written with
      | .ok _ => []
      | .error fault =>
        [.remark s!"Definition refused for '{Text.joinWords tokens}': {fault.message}"]
    else []
  | _ => []

def numeralRemark (tokens : List String) (fault : Fault) : List Message :=
  match fault with
  | .invalidNumeral _ violation =>
    [.remark s!"Numeral refused for '{Text.joinWords tokens}': {violation.message}"]
  | _ => []

/-- Refusals are told to the user and the dialogue goes on; other faults end it. -/
def takeFault (interpreter : Interpreter) (fault : Fault) (tokens : List String) : Heard :=
  if fault.isUserFault then
    { messages := badSymbolRemark tokens ++ numeralRemark tokens fault ++ [.refusal fault.message]
      dialogue := ⟨interpreter, .ready⟩ }
  else
    { messages := badSymbolRemark tokens
      signal := .fail fault
      dialogue := ⟨interpreter, .ready⟩ }

def takeOutcome (outcome : Outcome) (interpreter : Interpreter) (tokens : List String) : Heard :=
  match outcome with
  | .replied reply => takeReply interpreter reply tokens
  | .refused fault => takeFault interpreter fault tokens
  | .zeroQuantity => { signal := .collapse, dialogue := ⟨interpreter, .ready⟩ }

def runStatement (interpreter : Interpreter) (tokens : List String) : Heard :=
  let (outcome, next) := interpreter.execute tokens
  Heard.after [.note s!"Statement run: {Text.joinWords tokens}"] (takeOutcome outcome next tokens)

def answerMissing (interpreter : Interpreter) (token : String) (pending tokens : List String) :
    Heard :=
  match interpreter.supplyDefinition token tokens with
  | (.replied reply, next) =>
    Heard.after (takeReply next reply []).messages (runStatement next pending)
  | (.refused fault, next) =>
    if fault.isUserFault then
      Heard.after [.remark s!"Rejected definition for '{token}': {fault.message}"]
        (ask next token pending)
    else { signal := .fail fault, dialogue := ⟨next, .ready⟩ }
  | (.zeroQuantity, next) => { signal := .collapse, dialogue := ⟨next, .ready⟩ }

def isExit (line : String) : Bool :=
  Text.sameIgnoringCase line "exit"

def hear (dialogue : Dialogue) (input : String) : Heard :=
  let line := Text.trim input
  if isExit line then { signal := .finish, dialogue }
  else
    let tokens := Text.tokenize line
    match dialogue.stage with
    | .ready =>
      if tokens.isEmpty then { dialogue } else runStatement dialogue.interpreter tokens
    | .awaiting token pending => answerMissing dialogue.interpreter token pending tokens

end Dialogue
end RomanTrade
