import Brainfuck.Command
import Brainfuck.Error.Fault

/-!
Static validation: one scan that keeps the positions of the brackets that are still open.
-/

namespace Brainfuck.Brackets

/-- Scan the commands from `position` on with the innermost open bracket first in `opened`. A
`]` with nothing open is blamed at once, and at the end the innermost open `[`. -/
def scan (position : Nat) (opened : List Nat) : List Command → Option Fault
  | [] => opened.head?.map fun (innermost : Nat) => .unmatchedOpen innermost
  | .loopStart :: rest => scan (position + 1) (position :: opened) rest
  | .loopEnd :: rest =>
      match opened with
      | [] => some (.unmatchedClose position)
      | _ :: outer => scan (position + 1) outer rest
  | _ :: rest => scan (position + 1) opened rest

def validate (source : Bytes) : Option Fault :=
  scan 0 [] (commands source)

end Brainfuck.Brackets
