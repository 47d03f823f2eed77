import RomanTrade.Host.Basic

/-!
# File trees

The files and directories below one root.  Paths are followed name by name, from the root or from
the working directory: every name but the last has to lead to a directory.

Names are all that decides what can be read, written and created here.  There are no permissions
and no links, and a file that can be opened takes whatever is written to it: a disk never fills up
and a write never stops half way.
-/

namespace RomanTrade

inductive Node where
  | directory
  | file (content : ByteArray)

/-- The names from the root down to a file or directory. -/
abbrev Location := List String

structure FileTree where
  nodes : List (Location × Node) := []
  /-- Where the paths that do not begin at the root begin. -/
  working : Location := []

namespace FileTree

/-- The longest name in a directory and the longest path, in bytes. -/
def longestName : Nat := 255

def longestPath : Nat := 4095

def node? (tree : FileTree) (location : Location) : Option Node :=
  if location.isEmpty then some .directory else tree.nodes.lookup location

def replaceNode (location : Location) (node : Node) :
    List (Location × Node) → List (Location × Node)
  | [] => [(location, node)]
  | (other, old) :: rest =>
    if other = location then (location, node) :: rest
    else (other, old) :: replaceNode location node rest

def put (tree : FileTree) (location : Location) (node : Node) : FileTree :=
  { tree with nodes := replaceNode location node tree.nodes }

/-- The names of a path.  A slash at the end asks for a directory, as the name `.` does. -/
def names (path : String) : List String :=
  if path.endsWith "/" then pathNames path ++ ["."] else pathNames path

/-- Goes from a directory to one of its names.  The root lies in itself. -/
def enter (location : Location) (name : String) : Except FileFault Location :=
  if longestName < name.utf8ByteSize then .error .nameTooLong
  else if name = "." then .ok location
  else if name = ".." then .ok location.dropLast
  else .ok (location ++ [name])

/-- Follows names from a location, which must be a directory while names are left. -/
def follow (tree : FileTree) (location : Location) : List String → Except FileFault Location
  | [] => .ok location
  | name :: rest =>
    match tree.node? location with
    | none => .error .notFound
    | some (.file _) => .error .notADirectory
    | some .directory =>
      match enter location name with
      | .error fault => .error fault
      | .ok next => tree.follow next rest

/-- Paths that lead nowhere, whatever is there. -/
def pathFault? (path : String) : Option FileFault :=
  if path.toList.contains '\x00' then some .nulInName
  else if path.isEmpty then some .notFound
  else if longestPath < path.utf8ByteSize then some .nameTooLong
  else none

/-- The directory that a path is followed from. -/
def start (tree : FileTree) (path : String) : Location :=
  if path.startsWith "/" then [] else tree.working

/-- The location of a path; nothing need be there. -/
def locate (tree : FileTree) (path : String) : Except FileFault Location :=
  match pathFault? path with
  | some fault => .error fault
  | none => tree.follow (tree.start path) (names path)

/-- Where a file of this path would be, if its directory is there.  A slash at the end cannot follow
the name of a file, whatever that name is. -/
def locateFile (tree : FileTree) (path : String) : Except FileFault Location :=
  match pathFault? path with
  | some fault => .error fault
  | none =>
    if path.endsWith "/" then
      match tree.follow (tree.start path) ((pathNames path).dropLast ++ ["."]) with
      | .error fault => .error fault
      | .ok _ => .error .isADirectory
    else tree.follow (tree.start path) (pathNames path)

def hasPath (tree : FileTree) (path : String) : Bool :=
  match tree.locate path with
  | .error _ => false
  | .ok location => (tree.node? location).isSome

def isDirectory (tree : FileTree) (path : String) : Bool :=
  match tree.locate path with
  | .error _ => false
  | .ok location =>
    match tree.node? location with
    | some .directory => true
    | _ => false

def read (tree : FileTree) (path : String) : Except FileFault ByteArray :=
  match tree.locate path with
  | .error fault => .error fault
  | .ok location =>
    match tree.node? location with
    | none => .error .notFound
    | some .directory => .error .isADirectory
    | some (.file content) => .ok content

def readText (tree : FileTree) (path : String) : Except FileFault String :=
  match tree.read path with
  | .error fault => .error fault
  | .ok content =>
    match String.fromUTF8? content with
    | some text => .ok text
    | none => .error .notText

/-- Gives a file a content that may depend on the one it has; a missing file counts as empty. -/
def update (tree : FileTree) (path : String) (change : ByteArray → ByteArray) :
    Except FileFault FileTree :=
  match tree.locateFile path with
  | .error fault => .error fault
  | .ok location =>
    match tree.node? location with
    | some .directory => .error .isADirectory
    | some (.file content) => .ok (tree.put location (.file (change content)))
    | none => .ok (tree.put location (.file (change ByteArray.empty)))

def write (tree : FileTree) (path : String) (text : String) : Except FileFault FileTree :=
  tree.update path fun _ => text.toUTF8

def append (tree : FileTree) (path : String) (text : String) : Except FileFault FileTree :=
  tree.update path fun content => content ++ text.toUTF8

def makeDirectory (tree : FileTree) (path : String) : Except FileFault FileTree :=
  match pathFault? path with
  | some fault => .error fault
  | none =>
    match tree.follow (tree.start path) (pathNames path) with
    | .error fault => .error fault
    | .ok location =>
      match tree.node? location with
      | some _ => .error .exists
      | none => .ok (tree.put location .directory)

end FileTree
end RomanTrade
