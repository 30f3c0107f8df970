import Brainfuck.Error
import Brainfuck.Flag
import Brainfuck.Limits

/-!
The options of the command line, read from its arguments. Each option has a default, and of
several settings of one option the last one counts.
-/

namespace Brainfuck.CommandLine

structure Options where
  /-- The program file; if empty its path is asked for. -/
  file : Bytes := []
  limits : Limits := .standard
  noInput : Bool := false
  timed : Bool := false
  logLevel : Bytes := utf8 "warn"
  deriving DecidableEq, Repr

inductive Setting where
  | file (path : Bytes)
  | logLevel (level : Bytes)
  | loopLimit (limit : Int64)
  | noInput (on : Bool)
  | tapeSize (size : Int64)
  | timed (on : Bool)
  deriving DecidableEq, Repr

def Options.set (options : Options) : Setting → Options
  | .file path => { options with file := path }
  | .logLevel level => { options with logLevel := level }
  | .loopLimit limit => { options with limits := { options.limits with loopLimit := limit } }
  | .noInput on => { options with noInput := on }
  | .tapeSize size => { options with limits := { options.limits with tapeSize := size } }
  | .timed on => { options with timed := on }

def flags : List (Flag Setting) :=
  [⟨"file", .text .file, "brainfuck source file (read from the first line of stdin if empty)", none⟩,
    ⟨"log-level", .text .logLevel, "log level (debug, info, warn, error)", some "\"warn\""⟩,
    ⟨"loop-limit", .integer .loopLimit,
      "maximum number of loop closes evaluated, -1 for no limit", some "-1"⟩,
    ⟨"no-input", .switch .noInput, "make , a no-op instead of reading stdin lines", none⟩,
    ⟨"tape-size", .integer .tapeSize, "number of cells on the tape", some "1024"⟩,
    ⟨"time", .switch .timed, "print the elapsed time to stderr", none⟩]

structure Refusal where
  error : Error
  notice : Bytes
  deriving DecidableEq, Repr

/-- A flag that is wrong is explained by the usage, and a request for help is answered by it. -/
def Refusal.ofFault : Flag.Fault → Refusal
  | .helpRequested =>
      ⟨.joined (.category .invalidArgument) (.sentinel .help), Flag.usage "brainfuck" flags⟩
  | fault =>
      ⟨.joined (.category .invalidArgument) (.plain fault.message),
        fault.message ++ utf8 "\n" ++ Flag.usage "brainfuck" flags⟩

def Refusal.ofOperands (operands : List Bytes) : Refusal :=
  ⟨.status .invalidArgument
    (utf8 "unexpected arguments: [" ++ Bytes.joinWith 0x20 operands ++ utf8 "]"), []⟩

def Options.parse (arguments : List Bytes) : Except Refusal Options :=
  match Flag.scan flags arguments with
  | .error fault => .error (.ofFault fault)
  | .ok (settings, []) => .ok (settings.foldl Options.set {})
  | .ok (_, operands) => .error (.ofOperands operands)

end Brainfuck.CommandLine
