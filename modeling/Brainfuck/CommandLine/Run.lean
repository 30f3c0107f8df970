import Brainfuck.CommandLine.ExitCode
import Brainfuck.CommandLine.Options
import Brainfuck.Files
import Brainfuck.Interpreter
import Brainfuck.Text.WhiteSpace

/-!
The command line: it reads options from the arguments and a program from a file, runs the
program on standard input, and writes the output once the program has finished.
-/

namespace Brainfuck.CommandLine

structure Surroundings where
  read : Bytes → Except Files.Fault Bytes
  stdin : Reader
  /-- Why standard output takes nothing, if it does not. -/
  closedOutput : Option Error := none
  watch : Watch := .never
  debugging : Bool := false

inductive Notice where
  | text (content : Bytes)
  | elapsed
  deriving DecidableEq, Repr

def Notice.render (nanoseconds : Bytes) : Notice → Bytes
  | .text content => content
  | .elapsed => utf8 "Took " ++ nanoseconds ++ utf8 " ns\n"

structure Report where
  stdout : Bytes := []
  stderr : List Notice := []
  log : List Log.Entry := []
  error : Option Error := none
  deriving DecidableEq, Repr

def Report.exitCode (report : Report) : Nat :=
  CommandLine.exitCode report.error

def prompt : Notice :=
  .text (utf8 "Please enter file path:\n")

structure Program where
  path : Bytes
  stdin : Reader
  notices : List Notice

/-- The path of the program: the option, or a line of standard input without the white space
around it. -/
def Program.locate (options : Options) (stdin : Reader) : Except Error Program :=
  if options.file ≠ [] then .ok ⟨options.file, stdin, []⟩
  else
    let (answer, later) := stdin.next
    match answer.error with
    | some error => .error (.labelled (utf8 "reading file path") error)
    | none => .ok ⟨WhiteSpace.trim answer.line, later, [prompt]⟩

def loadedEntry (path source : Bytes) : Log.Entry :=
  ⟨.debug, utf8 "loaded program",
    [("file", path), ("instructions", Integer.ofNat (lex source).length)]⟩

/-- The report on a program that has ended. Output is written only if it succeeded. -/
def conclude (options : Options) (closedOutput : Option Error) (notices : List Notice)
    (log : List Log.Entry) (result : Interpreter.Result) : Report :=
  match result.error with
  | some error => { stderr := notices, log, error := some error }
  | none =>
      match closedOutput with
      | some error =>
          { stderr := notices, log, error := some (.labelled (utf8 "writing output") error) }
      | none =>
          { stdout := result.text, log,
            stderr := notices ++ if options.timed then [.elapsed] else [] }

def runSource (fuel : Nat) (surroundings : Surroundings) (options : Options) (level : Log.Level)
    (program : Program) (source : Bytes) : Option Report :=
  let admitted := List.filter fun (entry : Log.Entry) => level.admits entry.level
  let loaded := loadedEntry program.path source
  let input := if options.noInput then none else some (LineSource.reading program.stdin)
  match Interpreter.build source options.limits input with
  | .error fault =>
      some { stderr := program.notices, log := admitted [loaded], error := some (.fault fault) }
  | .ok interpreter =>
      (interpreter.run fuel surroundings.watch).map fun (report, _) =>
        conclude options surroundings.closedOutput program.notices
          (admitted (loaded :: report.log)) report.result

def unknownLevel (level : Bytes) : Error :=
  .joined (.category .invalidArgument) (.plain (Log.Level.unknown level))

/-- The level to log at, by name. In a build for debugging the option has no say. -/
def Surroundings.levelName (surroundings : Surroundings) (options : Options) : Bytes :=
  if surroundings.debugging then utf8 "debug" else options.logLevel

def runOptions (fuel : Nat) (surroundings : Surroundings) (options : Options) : Option Report :=
  match Log.Level.ofText? (surroundings.levelName options) with
  | none =>
      some { error := some (unknownLevel (surroundings.levelName options)) }
  | some level =>
      match Program.locate options surroundings.stdin with
      | .error error => some { stderr := [prompt], error := some error }
      | .ok program =>
          match surroundings.read program.path with
          | .error fault => some { stderr := program.notices, error := some fault.toError }
          | .ok source => runSource fuel surroundings options level program source

def run (fuel : Nat) (surroundings : Surroundings) (arguments : List Bytes) : Option Report :=
  match Options.parse arguments with
  | .error refusal => some { stderr := [.text refusal.notice], error := some refusal.error }
  | .ok options => runOptions fuel surroundings options

section Process

def keyword : Bytes :=
  utf8 "brainfuck"

def select? (arguments : List Bytes) : Option (List Bytes) :=
  if arguments.contains keyword then some (arguments.erase keyword) else none

/-- What is said at the end about an error. Asking for help is none. -/
def farewell : Option Error → List Notice
  | none => []
  | some error =>
      if error.is .help then []
      else [.text (utf8 "Error running brainfuck: " ++ error.message ++ utf8 "\n")]

def Report.closed (report : Report) : Report :=
  { report with stderr := report.stderr ++ farewell report.error }

end Process

end Brainfuck.CommandLine
