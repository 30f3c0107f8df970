import Brainfuck.CommandLine.Run
import Brainfuck.Manager.Invocation

/-!
The program. With the keyword among its arguments it runs a Brainfuck source; otherwise it
answers as the manager of the runtime.
-/

namespace Brainfuck.Main

def fuel : Nat := 4000000000000000000

def bytes (text : String) : Bytes :=
  text.toUTF8.toList

/-- A text for the file system; what is not UTF-8 names nothing. -/
def text (bytes : Bytes) : String :=
  (String.fromUTF8? ⟨bytes.toArray⟩).getD ""

def put (stream : IO.FS.Stream) (content : Bytes) : IO Unit := do
  stream.write ⟨content.toArray⟩
  stream.flush

def faultOf (path : Bytes) : IO.Error → Files.Fault
  | .noFileOrDirectory .. => ⟨"open", path, .notFound⟩
  | .inappropriateType _ code _ =>
      if code = 21 then ⟨"read", path, .isDirectory⟩ else ⟨"open", path, .notDirectory⟩
  | .permissionDenied .. => ⟨"open", path, .denied⟩
  | _ => ⟨"open", path, .invalid⟩

def readFile (path : Bytes) : IO (Except Files.Fault Bytes) := do
  if let some cause := Files.wordingFault? path then return .error ⟨"open", path, cause⟩
  try
    let content ← IO.FS.readBinFile (text path)
    return .ok content.toList
  catch error => return .error (faultOf path error)

partial def readAll (stream : IO.FS.Stream) (sofar : Bytes) : IO Bytes := do
  let chunk ← stream.read 65536
  if chunk.isEmpty then return sofar else readAll stream (sofar ++ chunk.toList)

def showEntry (entry : Log.Entry) : Bytes :=
  utf8 "level=" ++ utf8 entry.level.name ++ utf8 " msg=" ++ Quoted.encode entry.message ++
    (entry.fields.flatMap fun (name, value) => utf8 (" " ++ name ++ "=") ++ value) ++ utf8 "\n"

/-- Read what the options ask for, and run. Standard input is read only if a path or a line can
be needed from it. -/
def runCommandLine (arguments : List Bytes) : IO UInt32 := do
  let stdin ← IO.getStdin
  let stdout ← IO.getStdout
  let stderr ← IO.getStderr
  let options := (CommandLine.Options.parse arguments).toOption
  let asks := options.any fun options =>
    options.file = [] && (Log.Level.ofText? options.logLevel).isSome
  if asks then put stderr (CommandLine.prompt.render [])
  let named ← match options with
    | some options => if options.file = [] then pure none else some <$> readFile options.file
    | none => pure none
  let reads := match options, named with
    | some options, some (.ok source) => !options.noInput && (lex source).contains .input
    | _, _ => asks
  let input := Reader.ofText (← if reads then readAll stdin [] else pure [])
  let source ← match named, options with
    | some source, _ => pure source
    | none, some options =>
        match CommandLine.Program.locate options input with
        | .ok program => readFile program.path
        | .error _ => pure (.ok [])
    | none, none => pure (.ok [])
  let begun ← IO.monoNanosNow
  match CommandLine.run fuel { read := fun _ => source, stdin := input } arguments with
  | none => return 1
  | some report =>
      let took := Integer.ofNat ((← IO.monoNanosNow) - begun)
      let said := if asks then report.closed.stderr.erase CommandLine.prompt else report.closed.stderr
      for entry in report.log do put stderr (showEntry entry)
      put stdout report.stdout
      for notice in said do put stderr (notice.render took)
      return UInt32.ofNat report.exitCode

def runtime : Manager :=
  ⟨utf8 "io.containerd.buffy.v1"⟩

def managerHost (self : String) (arguments : List Bytes) : IO Host := do
  let files := Files.ofWorkingDirectory (bytes (← IO.currentDir).toString)
  match Manager.Invocation.Options.parse self arguments with
  | .error _ => return { files }
  | .ok (options, _) =>
      match PidFile.path files options.id with
      | .error _ => return { files }
      | .ok path =>
          match ← readFile path with
          | .error _ => return { files }
          | .ok content => return { files := files.place path (.file content) }

def showOutput : Manager.Invocation.Output → Bytes
  | .info info => info.name ++ utf8 " " ++ info.version ++ utf8 "\n"
  | .stopped stopped =>
      utf8 "pid " ++ Integer.ofInt stopped.pid ++ utf8 " exit status " ++
        Integer.ofInt stopped.exitStatus ++ utf8 "\n"
  | .nothing => []

def runManager (arguments : List Bytes) : IO UInt32 := do
  let self := (← IO.appPath).toString
  match (runtime.invoke self (← managerHost self arguments) arguments).1 with
  | .ok output =>
      put (← IO.getStdout) (showOutput output)
      return 0
  | .error failure =>
      put (← IO.getStderr) (runtime.complaint self failure)
      return UInt32.ofNat failure.exitCode

end Brainfuck.Main

open Brainfuck in
def main (arguments : List String) : IO UInt32 := do
  let arguments := arguments.map Main.bytes
  match CommandLine.select? arguments with
  | some rest => Main.runCommandLine rest
  | none => Main.runManager arguments
