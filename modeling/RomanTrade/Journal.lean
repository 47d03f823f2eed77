import RomanTrade.Host.Basic
import RomanTrade.Screen.Layout
import RomanTrade.Text.Quoted

/-!
# The journal

Messages go to the console, to a log file, or to both.  The log file is created when the first
message is meant for it while file logging is on.  Only one attempt is made; if it fails the
session goes on without a file.
-/

namespace RomanTrade

inductive Level where
  | info
  | warn
  | error
  deriving DecidableEq, Repr

namespace Level

/-- The level's name, in five columns. -/
def column : Level → String
  | info => "INFO "
  | warn => "WARN "
  | error => "ERROR"

def channel : Level → Channel
  | info => .out
  | warn | error => .err

end Level

inductive Target where
  | console
  | both
  | file
  deriving DecidableEq, Repr

namespace Target

def reachesConsole : Target → Bool
  | console | both => true
  | file => false

def reachesFile : Target → Bool
  | both | file => true
  | console => false

end Target

structure Message where
  level : Level
  text : String
  target : Target
  deriving DecidableEq, Repr

structure Journal where
  enabled : Bool := true
  /-- Whether the creation of a log file has been attempted. -/
  attempted : Bool := false
  path? : Option String := none
  directory : String := "logs"
  deriving DecidableEq, Repr

namespace Journal

def setEnabled (journal : Journal) (enabled : Bool) : Journal :=
  { journal with enabled }

/-- Chooses where the log file will be created, until its creation has been attempted. -/
def setDirectory (journal : Journal) (directory : String) : Journal :=
  if journal.attempted then journal else { journal with directory }

def header (time : String) : String :=
  s!"# galactic v{Screen.version} session started {time}"

def line (time : String) (level : Level) (text : String) : String :=
  s!"[{time}] {level.column} {text}"

/-- The journal as it describes itself. -/
def description (journal : Journal) : String :=
  match journal.path? with
  | none => "Logger \x7b log_path: None \x7d"
  | some path => "Logger \x7b log_path: Some(" ++ Text.quoted path ++ ") \x7d"

def unavailable (cause : FileFault) : String :=
  s!"WARN: File logging unavailable; continuing without a log file. ({cause.message})"

variable {m : Type → Type} [Monad m] [Host m]

def createFile (directory : String) : m (Except FileFault String) := do
  match ← Host.makeDirectories directory with
  | .error cause => return .error cause
  | .ok () =>
    let stamp ← Host.stamp
    let path := joinPath directory s!"session-{stamp}.log"
    let time ← Host.time
    match ← Host.appendFile path (header time ++ "\n") with
    | .error cause => return .error cause
    | .ok () => return .ok path

/-- The journal after its log file has been asked for. -/
def ensureFile (journal : Journal) : m Journal := do
  if journal.attempted then return journal
  let journal := { journal with attempted := true }
  match ← createFile journal.directory with
  | .ok path => return { journal with path? := some path }
  | .error cause =>
    Host.writeLine .err (unavailable cause)
    return journal

def recordInFile (journal : Journal) (message : Message) : m Journal := do
  let journal ← journal.ensureFile
  match journal.path? with
  | none => return journal
  | some path =>
    let time ← Host.time
    let _ ← Host.appendFile path (line time message.level message.text ++ "\n")
    return journal

def record (journal : Journal) (message : Message) : m Journal := do
  if message.target.reachesConsole then
    Host.writeLine message.level.channel message.text
  if message.target.reachesFile && journal.enabled then journal.recordInFile message
  else return journal

def recordAll (journal : Journal) : List Message → m Journal
  | [] => return journal
  | message :: rest => do
    let journal ← journal.record message
    journal.recordAll rest

end Journal
end RomanTrade
