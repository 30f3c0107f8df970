import Brainfuck.Error
import Brainfuck.Path
import Brainfuck.Table

/-!
A tree of files without symbolic links. A path is followed name by name from the root or from the
working directory, and every name but the last has to lead to a directory.
-/

namespace Brainfuck

abbrev Location := List Bytes

inductive Node where
  | file (content : Bytes)
  | directory
  | fifo
  deriving DecidableEq, Repr

structure Files where
  nodes : Table Location Node
  workingDirectory : Location
  deriving DecidableEq, Repr

namespace Files

inductive Cause where
  | notFound
  | notDirectory
  | isDirectory
  | nameTooLong
  | invalid
  | exists
  | denied
  deriving DecidableEq, Repr

def Cause.message : Cause → Bytes
  | .notFound => utf8 "no such file or directory"
  | .notDirectory => utf8 "not a directory"
  | .isDirectory => utf8 "is a directory"
  | .nameTooLong => utf8 "file name too long"
  | .invalid => utf8 "invalid argument"
  | .exists => utf8 "file exists"
  | .denied => utf8 "permission denied"

structure Fault where
  operation : String
  path : Bytes
  cause : Cause
  deriving DecidableEq, Repr

def Fault.message (fault : Fault) : Bytes :=
  utf8 fault.operation ++ utf8 " " ++ fault.path ++ utf8 ": " ++ fault.cause.message

def Fault.toError (fault : Fault) : Error :=
  .plain fault.message

/-- The longest name, and the length from which on a path is too long. -/
def longestName : Nat := 255
def pathBound : Nat := 4096

/-- What stands at a place. The root is always a directory. -/
def node? (files : Files) : Location → Option Node
  | [] => some .directory
  | location => files.nodes.get? location

def put (location : Location) (node : Node) (files : Files) : Files :=
  { files with nodes := files.nodes.put location node }

section Paths

def walk (files : Files) : Location → List Bytes → Except Cause Location
  | place, [] => .ok place
  | place, name :: rest =>
      match files.node? place with
      | none => .error .notFound
      | some (.file _) | some .fifo => .error .notDirectory
      | some .directory =>
          if name = [] ∨ name = Path.here then walk files place rest
          else if name = Path.parent then walk files place.dropLast rest
          else if longestName < name.length then .error .nameTooLong
          else if (files.node? (place ++ [name])).isNone then .error .notFound
          else walk files (place ++ [name]) rest

def origin (files : Files) (path : Bytes) : Location :=
  if Path.isAbsolute path then [] else files.workingDirectory

def wordingFault? (path : Bytes) : Option Cause :=
  if path.contains 0 then some .invalid
  else if path = [] then some .notFound
  else if pathBound ≤ path.length then some .nameTooLong
  else none

def find (files : Files) (path : Bytes) : Except Cause (Location × Node) := do
  if let some cause := wordingFault? path then throw cause
  let place ← files.walk (files.origin path) (Bytes.splitOn Path.slash path)
  match files.node? place with
  | some node => return (place, node)
  | none => throw .notFound

def slot (files : Files) (path : Bytes) : Except Cause Location := do
  if let some cause := wordingFault? path then throw cause
  let names := Bytes.splitOn Path.slash path
  let name := names.getLast?.getD []
  let parent ← files.walk (files.origin path) names.dropLast
  if files.node? parent ≠ some .directory then throw .notDirectory
  if name = [] ∨ name = Path.here ∨ name = Path.parent then throw .isDirectory
  if longestName < name.length then throw .nameTooLong
  let place := parent ++ [name]
  if files.node? place = some .directory then throw .isDirectory
  return place

end Paths

section Operations

def read (files : Files) (path : Bytes) : Except Fault Bytes :=
  match files.find path with
  | .error cause => .error ⟨"open", path, cause⟩
  | .ok (_, .file content) => .ok content
  | .ok (_, .directory) => .error ⟨"read", path, .isDirectory⟩
  | .ok (_, .fifo) => .ok []

def write (path content : Bytes) (files : Files) : Except Fault Files :=
  match files.slot path with
  | .error cause => .error ⟨"open", path, cause⟩
  | .ok place => .ok (files.put place (.file content))

def contains (files : Files) (path : Bytes) : Bool :=
  (files.find path).isOk

def isOccupied (files : Files) (place : Location) : Bool :=
  files.nodes.keys.any fun key => place.isPrefixOf key && key ≠ place

def remove (path : Bytes) (files : Files) : Files :=
  match files.find path with
  | .error _ => files
  | .ok (place, _) =>
      -- A directory that holds something stays.
      if files.isOccupied place then files else { files with nodes := files.nodes.erase place }

def removeTree (place : Location) (files : Files) : Files :=
  { files with nodes := files.nodes.filter fun node => !place.isPrefixOf node.1 }

def currentDirectory (files : Files) : Except Error Bytes :=
  if files.node? files.workingDirectory = some .directory then
    .ok (Path.slash :: Bytes.joinWith Path.slash files.workingDirectory)
  else .error (.plain (utf8 "getwd: no such file or directory"))

end Operations

section Building

def ofWorkingDirectory (path : Bytes) : Files :=
  let names := Path.names path
  { nodes := (List.range names.length).map fun count => (names.take (count + 1), .directory)
    workingDirectory := names }

def placeOf (files : Files) (path : Bytes) : Location :=
  if Path.isAbsolute path then Path.names path
  else Path.names (Path.slash :: Bytes.joinWith Path.slash files.workingDirectory ++ Path.slash :: path)

def withParents (place : Location) (files : Files) : Files :=
  (List.range (place.length - 1)).foldl
    (fun files count =>
      if (files.node? (place.take (count + 1))).isSome then files
      else files.put (place.take (count + 1)) .directory)
    files

def place (path : Bytes) (node : Node) (files : Files) : Files :=
  (files.withParents (files.placeOf path)).put (files.placeOf path) node

end Building

end Files

end Brainfuck
