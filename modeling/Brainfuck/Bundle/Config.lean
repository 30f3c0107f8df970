import Brainfuck.Brackets
import Brainfuck.Bundle.Spec
import Brainfuck.Files
import Brainfuck.Limits
import Brainfuck.Text.Quoted
import Brainfuck.Text.WhiteSpace

/-!
The configuration of a bundle: which script to run, where, with which search path and limits.
It is read from the bundle's specification, and the script itself is checked on the way.
-/

namespace Brainfuck.Bundle

structure Config where
  root : Bytes
  entrypoint : Bytes
  path : List Bytes
  limits : Limits
  deriving DecidableEq, Repr

def fileName : Bytes :=
  utf8 "config.json"

def scriptExtensions : List Bytes :=
  [utf8 ".bf", utf8 ".b", utf8 ".brainfuck"]

def isScript (name : Bytes) : Bool :=
  scriptExtensions.contains (Path.extension name)

def tapeSizeKey : Bytes :=
  utf8 "io.buffy.tape-size"

def loopLimitKey : Bytes :=
  utf8 "io.buffy.loop-limit"

/-- The integer under a key of the annotations, white space around it apart. -/
def annotation (annotations : Table Bytes Bytes) (key : Bytes) (default : Int64) :
    Except Error Int64 :=
  match annotations.get? key with
  | none => .ok default
  | some value =>
      match Integer.readDecimal (WhiteSpace.trim value) with
      | .ok number => .ok number
      | .error _ =>
          .error (.status .invalidArgument
            (utf8 "annotation " ++ key ++ utf8 ": " ++ Quoted.encode value ++
              utf8 " is not an integer"))

def pathMark : Bytes :=
  utf8 "PATH="

def searchPath : List Bytes → List Bytes
  | [] => []
  | entry :: rest =>
      match Bytes.after? pathMark entry with
      | some value => Bytes.splitOn 0x3A value
      | none => searchPath rest

namespace Config

def fullPath (config : Config) : Bytes :=
  Path.join [config.root, config.entrypoint]

def arguments (config : Config) : List Bytes :=
  [utf8 "brainfuck", utf8 "-file", config.fullPath,
    utf8 "-tape-size", Integer.ofInt config.limits.tapeSize.toInt,
    utf8 "-loop-limit", Integer.ofInt config.limits.loopLimit.toInt]

section Reading

def invalid (message : Bytes) : Error :=
  .status .invalidArgument message

def readSpec (read : Bytes → Except Files.Fault Bytes) (bundle : Bytes) : Except Error Spec :=
  match read (Path.join [bundle, fileName]) with
  | .error fault =>
      if fault.cause = .notFound then
        .error (.labelled (utf8 "config file " ++ fileName ++ utf8 " not found") (.category .notFound))
      else .error fault.toError
  | .ok text =>
      match Spec.parse text with
      | none => .error (.labelled (utf8 "parsing " ++ fileName) (.leaf .notConfiguration))
      | some spec => .ok spec

/-- The root directory. A relative one is taken from the bundle. -/
def rootOf (bundle : Bytes) (spec : Spec) : Except Error Bytes :=
  match spec.root with
  | none => .error (invalid (utf8 "root path not found in config file " ++ fileName))
  | some root =>
      if root.path = [] then
        .error (invalid (utf8 "root path not found in config file " ++ fileName))
      else if Path.isAbsolute root.path then .ok root.path
      else .ok (Path.join [bundle, root.path])

def argumentsOf (spec : Spec) : List Bytes :=
  (spec.process.map fun process => process.args.items).getD []

def environmentOf (spec : Spec) : List Bytes :=
  (spec.process.map fun process => process.env.items).getD []

def entrypointOf (spec : Spec) : Except Error Bytes :=
  match argumentsOf spec with
  | [name] =>
      if isScript name then .ok name
      else .error (invalid (utf8 "entry point (" ++ name ++ utf8 ") is not a brainfuck file"))
  | names =>
      .error (invalid (utf8 "incorrect number of args in the CMD. Expected 1, got " ++
        Integer.ofNat names.length))

def checkScript (read : Bytes → Except Files.Fault Bytes) (root name : Bytes) : Except Error Unit :=
  match read (Path.join [root, name]) with
  | .error fault =>
      if fault.cause = .notFound then
        .error (.labelled (utf8 "script " ++ name ++ utf8 " does not exist") (.category .notFound))
      else .error (.labelled (utf8 "reading script " ++ name) fault.toError)
  | .ok source =>
      match Brackets.validate source with
      | some fault => .error (.labelled (utf8 "script " ++ name) (.fault fault))
      | none => .ok ()

def limitsOf (spec : Spec) : Except Error Limits := do
  let tapeSize ← annotation spec.annotations tapeSizeKey Limits.standard.tapeSize
  let loopLimit ← annotation spec.annotations loopLimitKey Limits.standard.loopLimit
  match (Limits.mk tapeSize loopLimit).check with
  | some fault => throw (.labelled (utf8 "annotations") (.fault fault))
  | none => return ⟨tapeSize, loopLimit⟩

/-- The configuration of a bundle, or the first thing that is wrong with it. -/
def read (read : Bytes → Except Files.Fault Bytes) (bundle : Bytes) : Except Error Config := do
  let spec ← readSpec read bundle
  let root ← rootOf bundle spec
  let entrypoint ← entrypointOf spec
  checkScript read root entrypoint
  let limits ← limitsOf spec
  return { root, entrypoint, path := searchPath (environmentOf spec), limits }

end Reading

end Config

end Brainfuck.Bundle
