import Brainfuck.Text.Integer

/-!
What can be wrong with a program, with its limits, or with its use of them.
-/

namespace Brainfuck

inductive Fault where
  | unmatchedClose (position : Int)
  | unmatchedOpen (position : Int)
  /-- More loop closes were evaluated than the limit allows. -/
  | loopLimit (limit : Int)
  | invalidTapeSize (size : Int)
  | invalidLoopLimit (limit : Int)
  deriving DecidableEq, Repr

def Fault.message : Fault → Bytes
  | .unmatchedClose position =>
      utf8 "cannot close a loop before opening it (at " ++ Integer.ofInt position ++ utf8 ")"
  | .unmatchedOpen position =>
      utf8 "a loop was opened but never closed (at " ++ Integer.ofInt position ++ utf8 ")"
  | .loopLimit limit =>
      utf8 "the loop limit is exceeded (loop limit set to " ++ Integer.ofInt limit ++ utf8 ")"
  | .invalidTapeSize size =>
      utf8 "tape size must be at least 1, got " ++ Integer.ofInt size
  | .invalidLoopLimit limit =>
      utf8 "loop limit must be -1 (unbounded) or non-negative, got " ++ Integer.ofInt limit

end Brainfuck
