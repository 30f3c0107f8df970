import Brainfuck.Limits
import Brainfuck.Log
import Brainfuck.Machine

/-!
Interpreters: a program, its loop limit and a machine that can be run again and again. Each run
starts on a tape of zeros, reports a log, and returns a text, with an error beside it if it fails.
-/

namespace Brainfuck

structure Interpreter where
  program : Bytes
  loopLimit : Int64
  machine : Machine

namespace Interpreter

inductive Setting where
  | tapeSize (size : Int64)
  | loopLimit (limit : Int64)
  | input (source : Option LineSource)

/-- Limits and source after a setting; of settings of one sort the last one counts. -/
def Setting.apply (limits : Limits) (source : Option LineSource) :
    Setting → Limits × Option LineSource
  | .tapeSize size => ({ limits with tapeSize := size }, source)
  | .loopLimit limit => ({ limits with loopLimit := limit }, source)
  | .input source => (limits, source)

def build (program : Bytes) (limits : Limits) (source : Option LineSource) :
    Except Fault Interpreter := do
  if let some fault := limits.check then throw fault
  let tape ← Tape.ofSize limits.tapeSize
  return { program, loopLimit := limits.loopLimit, machine := .start tape source }

def create (program : Bytes) (settings : List Setting) : Except Fault Interpreter :=
  let (limits, source) :=
    settings.foldl (fun (limits, source) setting => setting.apply limits source)
      (Limits.standard, none)
  build program limits source

def reset (interpreter : Interpreter) : Interpreter :=
  { interpreter with machine := interpreter.machine.reset }

def withProgram (program : Bytes) (interpreter : Interpreter) : Interpreter :=
  { interpreter with program }

def withInput (source : Option LineSource) (interpreter : Interpreter) : Interpreter :=
  { interpreter with machine := { interpreter.machine with source } }

def cursor (interpreter : Interpreter) : Nat :=
  interpreter.machine.tape.cursor

def loopCount (interpreter : Interpreter) : Int64 :=
  interpreter.machine.closes

def memoryLength (interpreter : Interpreter) : Nat :=
  interpreter.machine.tape.size

def cellAt (interpreter : Interpreter) (index : Int64) : UInt8 :=
  interpreter.machine.tape.cellAt index

structure Result where
  text : Bytes
  error : Option Error
  deriving DecidableEq, Repr

structure Report where
  log : List Log.Entry
  result : Result

section Logging

def logFields (interpreter : Interpreter) : List (String × Bytes) :=
  [("tape_size", Integer.ofNat interpreter.memoryLength),
    ("loop_limit", Integer.ofInt interpreter.loopLimit.toInt)]

def entry (interpreter : Interpreter) (message : Bytes) (more : List (String × Bytes)) :
    Log.Entry :=
  ⟨.debug, message, interpreter.logFields ++ more⟩

def openingEntry (interpreter : Interpreter) : Log.Entry :=
  interpreter.entry
    (utf8 "running program of " ++ Integer.ofNat interpreter.program.length ++ utf8 " bytes") []

/-- The entry about the end of a run; an interrupted run has none. -/
def closingEntry (interpreter : Interpreter) : Machine.Halt → List Log.Entry
  | .finished =>
      [interpreter.entry (utf8 "program finished")
        [("loops", Integer.ofInt interpreter.machine.closes.toInt)]]
  | .failed error =>
      [interpreter.entry (utf8 "program failed at " ++ Integer.ofNat interpreter.machine.pointer)
        [("error", error.message)]]
  | .unclosed position =>
      [interpreter.entry (utf8 "program failed at end")
        [("error", (Fault.unmatchedOpen position).message)]]
  | .interrupted _ => []

end Logging

/-- What a run returns at its end. Only one that has finished returns what it has printed. -/
def outcome (machine : Machine) : Machine.Halt → Result
  | .finished => ⟨machine.output, none⟩
  | .failed error => ⟨[], some error⟩
  | .unclosed position => ⟨[], some (.fault (.unmatchedOpen position))⟩
  | .interrupted cause => ⟨[], some (.interrupted cause)⟩

def run (fuel : Nat) (watch : Watch) (interpreter : Interpreter) : Option (Report × Interpreter) :=
  let ⟨program, loopLimit, machine⟩ := interpreter
  let commands := (commands program).toArray
  match machine.reset.run commands loopLimit watch fuel with
  | none => none
  | some (machine, halt) =>
      let interpreter : Interpreter := ⟨program, loopLimit, machine⟩
      some
        (⟨interpreter.openingEntry :: interpreter.closingEntry halt, outcome machine halt⟩,
          interpreter)

end Interpreter

def execute (fuel : Nat) (watch : Watch) (source : Bytes) (input : Option LineSource)
    (limits : Limits) : Option Interpreter.Result :=
  match Interpreter.build source limits input with
  | .error fault => some ⟨[], some (.fault fault)⟩
  | .ok interpreter => (interpreter.run fuel watch).map fun (report, _) => report.result

end Brainfuck
