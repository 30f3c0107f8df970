import Brainfuck.Error.Fault

/-!
The limits of a run: the number of cells, and how many loop closes it may evaluate.
-/

namespace Brainfuck

structure Limits where
  tapeSize : Int64
  loopLimit : Int64
  deriving DecidableEq, Repr

namespace Limits

def unbounded : Int64 := -1

def standard : Limits where
  tapeSize := 1024
  loopLimit := unbounded

/-- What is wrong with the limits; a bad tape size is found first. -/
def check (limits : Limits) : Option Fault :=
  if limits.tapeSize < 1 then some (.invalidTapeSize limits.tapeSize.toInt)
  else if limits.loopLimit < unbounded then some (.invalidLoopLimit limits.loopLimit.toInt)
  else none

end Limits

end Brainfuck
