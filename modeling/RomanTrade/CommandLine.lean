import RomanTrade.Application

/-!
# The command line

Two options choose the settings file and the directory of log files.  The program ends with exit
code 0 unless an argument, the settings or the input fails.
-/

namespace RomanTrade

inductive ArgumentFault where
  | unknown (argument : String)
  | missingValue (option : String)
  deriving DecidableEq, Repr

def ArgumentFault.message : ArgumentFault → String
  | unknown argument => s!"Unknown argument: {argument}"
  | missingValue option => s!"Missing value for {option}"

structure Paths where
  settings : String := "config.json"
  logs : String := "logs"
  deriving DecidableEq, Repr

namespace Paths

/-- Reads arguments from left to right; what follows an option is its value, whatever it is. -/
def read (paths : Paths) : List String → Except ArgumentFault Paths
  | [] => .ok paths
  | ["--config"] => .error (.missingValue "--config")
  | ["--logs"] => .error (.missingValue "--logs")
  | "--config" :: path :: rest => { paths with settings := path }.read rest
  | "--logs" :: path :: rest => { paths with logs := path }.read rest
  | argument :: _ => .error (.unknown argument)

def ofArguments (arguments : List String) : Except ArgumentFault Paths :=
  ({} : Paths).read arguments

end Paths

namespace CommandLine

def faultCode : UInt32 := 1

def collapseCode : UInt32 := 101

variable {m : Type → Type} [Monad m] [Host m]

/-- Starts the application that the arguments ask for, or gives the exit code. -/
def start (arguments : List String) : m (Except UInt32 Application) := do
  match Paths.ofArguments arguments with
  | .error fault =>
    Host.writeLine .err fault.message
    return .error faultCode
  | .ok paths =>
    match ← Application.start paths.settings paths.logs with
    | .ok app => return .ok app
    | .error fault =>
      Host.writeLine .err fault.message
      return .error faultCode

/-- Ends the program.  Of what stands on the error channel when a program collapses this is only the
last part: the place in the program and the advice around the cause are left out. -/
def finish (app : Application) (ending : Ending) : m UInt32 :=
  match ending with
  | .finished => return 0
  | .failed fault => do
    let _ ← app.journal.record ⟨.error, fault.message, .both⟩
    return faultCode
  | .collapsed => do
    Host.writeLine .err "denominator == 0"
    return collapseCode

/-- The whole program on an input that is already known. -/
def run (arguments : List String) (reads : List ReadResult) : m UInt32 := do
  match ← start arguments with
  | .error code => return code
  | .ok app =>
    let (ending, app) ← app.runSession reads
    finish app ending

end CommandLine
end RomanTrade
