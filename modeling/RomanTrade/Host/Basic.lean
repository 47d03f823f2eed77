import RomanTrade.Fault

/-!
# Hosts

The surroundings of a session: two console channels, files, and a clock.  What a session does to
them is written once, for every monad that offers these operations; the desk is the one that can
be reasoned about.
-/

namespace RomanTrade

inductive Channel where
  | out
  | err
  deriving DecidableEq, Repr

class Host (m : Type → Type) where
  write : Channel → String → m Unit
  pathExists : String → m Bool
  readFile : String → m (Except FileFault String)
  /-- Replaces the content of a file, which is created if there is none. -/
  writeFile : String → String → m (Except FileFault Unit)
  /-- Adds to the end of a file, which is created if there is none. -/
  appendFile : String → String → m (Except FileFault Unit)
  isDirectory : String → m Bool
  makeDirectory : String → m (Except FileFault Unit)
  /-- The present time as it is written in a record. -/
  time : m String
  /-- The present time as it is written in a file name. -/
  stamp : m String

def joinPath (directory name : String) : String :=
  if directory.isEmpty || directory.endsWith "/" then directory ++ name
  else directory ++ "/" ++ name

def pathNames (path : String) : List String :=
  ((path.toList.splitOnP (· == '/')).map String.ofList).filter (!·.isEmpty)

/-- The paths of the directories that a path lies in, the nearest first, down to the first name. -/
def pathsAbove (path : String) : List String :=
  let names := (pathNames path).filter (· ≠ ".")
  let start := if path.startsWith "/" then "/" else ""
  ((List.range names.length).drop 1).reverse.map fun count =>
    start ++ "/".intercalate (names.take count)

namespace Host

variable {m : Type → Type} [Host m]

def writeLine (channel : Channel) (line : String) : m Unit :=
  write channel (line ++ "\n")

variable [Monad m]

/-- Creates a directory in one that is there; a directory that is there already will do. -/
def ensureDirectory (path : String) : m (Except FileFault Unit) := do
  match ← makeDirectory path with
  | .ok () => return .ok ()
  | .error cause => if ← isDirectory path then return .ok () else return .error cause

/-- Creates a directory, and before it the directories in `above` that are missing, of which the
nearest comes first. -/
def ensureDirectoryBelow (path : String) : List String → m (Except FileFault Unit)
  | [] => ensureDirectory path
  | parent :: above => do
    match ← ensureDirectory path with
    | .error .notFound =>
      match ← ensureDirectoryBelow parent above with
      | .error cause => return .error cause
      | .ok () => ensureDirectory path
    | result => return result

/-- Creates a directory together with those above it that are missing. -/
def makeDirectories (path : String) : m (Except FileFault Unit) :=
  if path.isEmpty then return .ok () else ensureDirectoryBelow path (pathsAbove path)

end Host

end RomanTrade
