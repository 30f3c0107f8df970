import Brainfuck.Text.Quoted

/-!
Log entries and levels.
-/

namespace Brainfuck.Log

inductive Level where
  | panic
  | fatal
  | error
  | warning
  | info
  | debug
  | trace
  deriving DecidableEq, Repr

structure Entry where
  level : Level
  message : Bytes
  fields : List (String × Bytes)
  deriving DecidableEq, Repr

namespace Level

def severity : Level → Nat
  | .panic => 0
  | .fatal => 1
  | .error => 2
  | .warning => 3
  | .info => 4
  | .debug => 5
  | .trace => 6

def name : Level → String
  | .panic => "panic"
  | .fatal => "fatal"
  | .error => "error"
  | .warning => "warning"
  | .info => "info"
  | .debug => "debug"
  | .trace => "trace"

def admits (threshold level : Level) : Bool :=
  level.severity ≤ threshold.severity

/-- A character in lower case, as far as ASCII letters can result: the dotted capital I and the
Kelvin sign are the only others whose lower case is one. -/
def lower (char : Char) : Char :=
  if char.toNat = 0x130 then 'i' else if char.toNat = 0x212A then 'k' else char.toLower

def ofText? (text : Bytes) : Option Level :=
  let names := (Utf8.pieces text).map fun piece =>
    match piece with
    | .char value => Utf8.Piece.char (lower value)
    | stray => stray
  let named (name : String) : Bool := names = name.toList.map Utf8.Piece.char
  if named "panic" then some .panic
  else if named "fatal" then some .fatal
  else if named "error" then some .error
  else if named "warn" || named "warning" then some .warning
  else if named "info" then some .info
  else if named "debug" then some .debug
  else if named "trace" then some .trace
  else none

def unknown (text : Bytes) : Bytes :=
  utf8 "not a valid logrus Level: " ++ Quoted.encode text

end Level

end Brainfuck.Log
