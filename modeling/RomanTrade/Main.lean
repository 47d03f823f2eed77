import RomanTrade.CommandLine
import Std.Time.Format
import Std.Time.Zoned

/-!
# The program

The host is the system: the console, its files and its clock.  Lines are read as they are typed.
-/

namespace RomanTrade
namespace Program

/-- The cause of a failed operation on a file, by the system's number for it. -/
def fileFault (error : IO.Error) : FileFault :=
  match error with
  | .noFileOrDirectory _ _ _ => .notFound
  | .alreadyExists _ _ _ => .exists
  | .inappropriateType _ code details =>
    if code == 20 then .notADirectory
    else if code == 21 then .isADirectory
    else .other s!"{details} (os error {code})"
  | other => .other (toString other)

def attempt {α : Type} (operation : IO α) : IO (Except FileFault α) := do
  try
    return .ok (← operation)
  catch error =>
    return .error (fileFault error)

def clock (format : String) : IO String := do
  return (← Std.Time.PlainDateTime.now).format format

def readText (path : String) : IO (Except FileFault String) := do
  match ← attempt (IO.FS.readBinFile path) with
  | .error fault => return .error fault
  | .ok content =>
    match String.fromUTF8? content with
    | some text => return .ok text
    | none => return .error .notText

def isDirectory (path : String) : IO Bool := do
  match ← attempt (IO.FS.realPath path) with
  | .ok real => real.isDir
  | .error _ => return false

instance : Host IO where
  write channel text := do
    let stream ← match channel with
      | .out => IO.getStdout
      | .err => IO.getStderr
    stream.putStr text
    stream.flush
  pathExists path := do
    match ← attempt (IO.FS.realPath path) with
    | .ok _ => return true
    | .error _ => return false
  readFile path := readText path
  writeFile path text := attempt (IO.FS.writeFile path text)
  appendFile path text :=
    attempt (IO.FS.withFile path .append fun handle => handle.putStr text)
  isDirectory path := isDirectory path
  makeDirectory path := attempt (IO.FS.createDir path)
  time := clock "uuuu-MM-dd HH:mm:ss"
  stamp := clock "uuuuMMdd-HHmmss"

/-- Reads the bytes of a line with the line feed that ends it. -/
partial def readLineBytes (input : IO.FS.Stream) (line : ByteArray) : IO ByteArray := do
  let next ← input.read 1
  match next[0]? with
  | none => return line
  | some b =>
    if b == 0x0a then return line.push b else readLineBytes input (line.push b)

def readLine (input : IO.FS.Stream) : IO ReadResult := do
  try
    let line ← readLineBytes input ByteArray.empty
    if line.isEmpty then return .endOfInput else return ReadResult.ofLineBytes line.toList
  catch error =>
    match error with
    | .interrupted _ _ _ => return .interrupted
    | other => return .failed (fileFault other)

partial def converse (input : IO.FS.Stream) (app : Application) : IO (Ending × Application) := do
  let (ending?, app) ← (Application.flow.turn (liftM (readLine input))).run app
  match ending? with
  | some ending => return (ending, app)
  | none => converse input app

end Program
end RomanTrade

open RomanTrade in
def main (arguments : List String) : IO UInt32 := do
  match ← CommandLine.start arguments with
  | .error code => return code
  | .ok app =>
    let (ending, app) ← Program.converse (← IO.getStdin) app
    CommandLine.finish app ending
