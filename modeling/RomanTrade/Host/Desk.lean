import RomanTrade.Host.FileTree

/-!
# Desks

A host that is a value: a clock, a file tree, and what has been written to the two channels.
-/

namespace RomanTrade

/-- A clock that goes on from one look at it to the next. -/
structure Clock where
  /-- What the next look finds, as it is written in a record and in a file name. -/
  time : String
  stamp : String
  /-- What the looks after that find; behind the last of them the clock stands still. -/
  later : List (String × String) := []

/-- The clock after a look at it. -/
def Clock.next (clock : Clock) : Clock :=
  match clock.later with
  | [] => clock
  | (time, stamp) :: later => ⟨time, stamp, later⟩

structure Desk extends Clock where
  files : FileTree := {}
  out : String := ""
  err : String := ""

namespace Desk

def write (desk : Desk) (channel : Channel) (text : String) : Desk :=
  match channel with
  | .out => { desk with out := desk.out ++ text }
  | .err => { desk with err := desk.err ++ text }

/-- Puts a changed file tree in place, or leaves the desk as it is. -/
def withFiles (result : Except FileFault FileTree) (desk : Desk) :
    Except FileFault Unit × Desk :=
  match result with
  | .error fault => (.error fault, desk)
  | .ok files => (.ok (), { desk with files })

/-- The desk after a look at its clock. -/
def tick (desk : Desk) : Desk :=
  { desk with toClock := desk.toClock.next }

end Desk

instance : Host (StateM Desk) where
  write channel text := fun desk => ((), desk.write channel text)
  pathExists path := fun desk => (desk.files.hasPath path, desk)
  readFile path := fun desk => (desk.files.readText path, desk)
  writeFile path text := fun desk => desk.withFiles (desk.files.write path text)
  appendFile path text := fun desk => desk.withFiles (desk.files.append path text)
  isDirectory path := fun desk => (desk.files.isDirectory path, desk)
  makeDirectory path := fun desk => desk.withFiles (desk.files.makeDirectory path)
  time := fun desk => (desk.time, desk.tick)
  stamp := fun desk => (desk.stamp, desk.tick)

end RomanTrade
