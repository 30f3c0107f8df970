import Brainfuck.Text.Bytes

/-!
The eight commands and the lexing of sources. Every byte of a source is a command; the bytes
that are none of the eight are the command `ignore`, so positions in a source and in its
commands are the same.
-/

namespace Brainfuck

inductive Command where
  | increment
  | decrement
  | left
  | right
  | output
  | input
  | loopStart
  | loopEnd
  | ignore
  deriving DecidableEq, Repr

namespace Command

def ofByte (byte : UInt8) : Command :=
  match byte.toNat with
  | 0x2B => .increment
  | 0x2D => .decrement
  | 0x3C => .left
  | 0x3E => .right
  | 0x2E => .output
  | 0x2C => .input
  | 0x5B => .loopStart
  | 0x5D => .loopEnd
  | _ => .ignore

/-- The byte that a command is written as; filler is written as a space. -/
def toByte : Command → UInt8
  | .increment => 0x2B
  | .decrement => 0x2D
  | .left => 0x3C
  | .right => 0x3E
  | .output => 0x2E
  | .input => 0x2C
  | .loopStart => 0x5B
  | .loopEnd => 0x5D
  | .ignore => 0x20

theorem ofByte_eq_iff {byte : UInt8} {command : Command} (kept : command ≠ .ignore) :
    ofByte byte = command ↔ byte = command.toByte := by
  rw [← UInt8.toNat_inj]
  unfold ofByte
  split <;> cases command <;> simp_all [toByte]

def text (command : Command) : Bytes :=
  [command.toByte]

end Command

def commands (source : Bytes) : List Command :=
  source.map Command.ofByte

def preLex (source : Bytes) : Bytes :=
  source.filter fun byte => Command.ofByte byte ≠ .ignore

def lex (source : Bytes) : List Command :=
  (commands source).filter (· ≠ .ignore)

end Brainfuck
