import Brainfuck.Files
import Brainfuck.Text.Integer
import Brainfuck.Text.Quoted

/-!
Pid files. The pid of a task's process is kept next to the working directory under the id of the
task, so that whoever shares the parent directory finds it.
-/

namespace Brainfuck.PidFile

def name : Bytes :=
  utf8 "bf.pid"

def path (files : Files) (id : Bytes) : Except Error Bytes :=
  match files.currentDirectory with
  | .error error => .error (.labelled (utf8 "getting current working directory") error)
  | .ok current => .ok (Path.join [Path.directory current, id, name])

def notNumber (text : Bytes) : Integer.Fault → Bytes
  | .malformed => utf8 "strconv.Atoi: parsing " ++ Quoted.encode text ++ utf8 ": invalid syntax"
  | .outOfRange => utf8 "strconv.Atoi: parsing " ++ Quoted.encode text ++ utf8 ": value out of range"

def read (files : Files) (id : Bytes) : Except Error Int64 := do
  let path ← path files id
  match files.read path with
  | .error fault => throw fault.toError
  | .ok text =>
      match Integer.readDecimal text with
      | .error fault => throw (.plain (notNumber text fault))
      | .ok pid => return pid

/-- Replace what stands at a path by a file. The file is first written under a temporary name in
the same directory and then renamed, so that no reader finds half of it. -/
def replace (files : Files) (temporary path content : Bytes) : Except Error Files :=
  let draft := Path.join [Path.directory path, temporary]
  match files.slot draft, files.slot path with
  | .error cause, _ =>
      .error (.labelled (utf8 "failed to create temp file")
        (Files.Fault.toError ⟨"open", draft, cause⟩))
  | .ok _, .error _ =>
      .error (.labelled
        (utf8 "failed to rename " ++ Quoted.encode draft ++ utf8 " to " ++ Quoted.encode path)
        (.plain (utf8 "rename " ++ draft ++ utf8 " " ++ path ++ utf8 ": " ++
          Files.Cause.exists.message)))
  | .ok _, .ok place => .ok (files.put place (.file content))

structure Refusals where
  permissions : Option Error := none
  ownership : Option Error := none
  deriving DecidableEq, Repr

def Refusals.secure (refusals : Refusals) : Except Error Unit :=
  match refusals.permissions, refusals.ownership with
  | some error, _ => .error (.labelled (utf8 "changing pid file permissions") error)
  | none, some error => .error (.labelled (utf8 "changing pid file ownership") error)
  | none, none => .ok ()

/-- Write the pid for an id. Once it is written it stays, whatever else is refused. -/
def write (files : Files) (refusals : Refusals) (temporary id : Bytes) (pid : Int64) :
    Except Error Unit × Files :=
  match path files id with
  | .error error => (.error error, files)
  | .ok path =>
      match replace files temporary path (Integer.ofInt pid.toInt) with
      | .error error =>
          (.error (.labelled (utf8 "writing pid file of init process") error), files)
      | .ok files => (refusals.secure, files)

end Brainfuck.PidFile
