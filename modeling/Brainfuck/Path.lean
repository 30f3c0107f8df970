import Brainfuck.Text.Bytes

/-!
Paths as texts. They are cleaned by their wording alone: dots and doubled slashes go, and a
pair of dots takes the name before it with it.
-/

namespace Brainfuck.Path

def slash : UInt8 := 0x2F

def here : Bytes := [0x2E]

def parent : Bytes := [0x2E, 0x2E]

def isAbsolute (path : Bytes) : Bool :=
  path.head? = some slash

/-- The names kept so far, last first, after one more name. A pair of dots with nothing before
it is kept only in a path that does not begin at the root. -/
def pushName (absolute : Bool) (kept : List Bytes) (name : Bytes) : List Bytes :=
  if name = [] ∨ name = here then kept
  else if name = parent then
    match kept with
    | [] => if absolute then [] else [parent]
    | last :: before => if last = parent then parent :: kept else before
  else name :: kept

def names (path : Bytes) : List Bytes :=
  ((Bytes.splitOn slash path).foldl (pushName (isAbsolute path)) []).reverse

def clean (path : Bytes) : Bytes :=
  if isAbsolute path then slash :: Bytes.joinWith slash (names path)
  else if names path = [] then here
  else Bytes.joinWith slash (names path)

/-- Paths one after the other, cleaned. Empty ones count for nothing. -/
def join (paths : List Bytes) : Bytes :=
  match paths.filter (· ≠ []) with
  | [] => []
  | parts => clean (Bytes.joinWith slash parts)

def upToSlash (path : Bytes) : Bytes :=
  (path.reverse.dropWhile (· ≠ slash)).reverse

def directory (path : Bytes) : Bytes :=
  clean (upToSlash path)

/-- The text from the last dot of the last name on, if it has a dot. -/
def extension (path : Bytes) : Bytes :=
  let name := path.reverse.takeWhile (· ≠ slash)
  if name.contains 0x2E then 0x2E :: (name.takeWhile (· ≠ 0x2E)).reverse else []

end Brainfuck.Path
