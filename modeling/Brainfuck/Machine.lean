import Brainfuck.Brackets
import Brainfuck.LineSource
import Brainfuck.Tape

/-!
The machine that executes commands. It walks over the commands with a pointer and keeps the
positions of the brackets that it has passed and not yet left, innermost first. A loop is
entered whatever the cell holds; its closing bracket decides whether it is repeated.
-/

namespace Brainfuck

structure Machine where
  tape : Tape
  pointer : Nat
  loops : List Nat
  closes : Int64
  printed : Array UInt8
  source : Option LineSource
  asked : Nat

namespace Machine

def start (tape : Tape) (source : Option LineSource) : Machine where
  tape := tape.reset
  pointer := 0
  loops := []
  closes := 0
  printed := #[]
  source := source
  asked := 0

/-- Begin again. What the source has served stays served. -/
def reset (machine : Machine) : Machine :=
  start machine.tape machine.source

def output (machine : Machine) : Bytes :=
  machine.printed.toList.flatMap fun cell => String.utf8EncodeChar (Char.ofNat cell.toNat)

inductive Step where
  | next (machine : Machine)
  | failed (machine : Machine) (error : Error)

@[inline] def advance (machine : Machine) : Machine :=
  { machine with pointer := machine.pointer + 1 }

def readLine (machine : Machine) : Step :=
  match machine.source with
  | none => .next machine.advance
  | some source =>
      let (answer, later) := source.next
      let machine := { machine with source := some later, asked := machine.asked + 1 }
      let store := { machine with tape := machine.tape.set (firstCharCode answer.line) }
      match answer.error with
      | none => .next store.advance
      | some error =>
          -- The end of the input, however wrapped, counts as the line that comes with it.
          if error.is .endOfInput then .next store.advance
          else .failed machine (.labelled (utf8 "reading input") error)

def closeLoop (limit : Int64) (machine : Machine) : Step :=
  -- A bracket counts against the limit before it is known whether it closes anything.
  let machine := { machine with closes := machine.closes + 1 }
  if limit ≠ -1 ∧ limit < machine.closes then .failed machine (.fault (.loopLimit limit.toInt))
  else
    match machine.loops with
    | [] => .failed machine (.fault (.unmatchedClose machine.pointer))
    | innermost :: outer =>
        if machine.tape.get ≠ 0 then .next { machine with pointer := innermost + 1 }
        else .next { machine with loops := outer, pointer := machine.pointer + 1 }

def execute (limit : Int64) (command : Command) (machine : Machine) : Step :=
  match command with
  | .increment => .next { machine with tape := machine.tape.increment, pointer := machine.pointer + 1 }
  | .decrement => .next { machine with tape := machine.tape.decrement, pointer := machine.pointer + 1 }
  | .left => .next { machine with tape := machine.tape.left, pointer := machine.pointer + 1 }
  | .right => .next { machine with tape := machine.tape.right, pointer := machine.pointer + 1 }
  | .output =>
      .next { machine with
        printed := machine.printed.push machine.tape.get, pointer := machine.pointer + 1 }
  | .input => machine.readLine
  | .loopStart =>
      .next { machine with
        loops := machine.pointer :: machine.loops, pointer := machine.pointer + 1 }
  | .loopEnd => machine.closeLoop limit
  | .ignore => .next machine.advance

inductive Halt where
  | finished
  | failed (error : Error)
  | unclosed (position : Nat)
  | interrupted (cause : Interruption)
  deriving DecidableEq, Repr

def atEnd (machine : Machine) : Halt :=
  match machine.loops with
  | [] => .finished
  | innermost :: _ => .unclosed innermost

end Machine

/-- When a run is asked to stop. A request that has come stays, so a run sees no more of it than
the first command before which it is there. -/
inductive Watch where
  | never
  /-- The request comes when so many commands have been executed. -/
  | after (count : Nat) (cause : Interruption)
  | atLine (line : Nat)
  deriving DecidableEq, Repr

namespace Watch

def already (cause : Interruption) : Watch :=
  .after 0 cause

def raised (asked : Nat) : Watch → Option Interruption
  | .never => none
  | .after count cause => if count = 0 then some cause else none
  | .atLine line => if line ≤ asked then some .canceled else none

def pass (count : Nat) : Watch → Watch
  | .never => .never
  | .after left cause => .after (left - count) cause
  | .atLine line => .atLine line

end Watch

namespace Machine

/-- Execute commands until the run ends. Without a result the fuel was too little. -/
def run (commands : Array Command) (limit : Int64) :
    Watch → Nat → Machine → Option (Machine × Halt)
  | _, 0, _ => none
  | watch, fuel + 1, machine =>
      match commands[machine.pointer]? with
      | none => some (machine, machine.atEnd)
      | some command =>
          -- A request to stop is looked for before each command and not after the last one.
          match watch.raised machine.asked with
          | some cause => some (machine, .interrupted cause)
          | none =>
              match machine.execute limit command with
              | .next later => run commands limit (watch.pass 1) fuel later
              | .failed later error => some (later, .failed error)

end Machine

end Brainfuck
