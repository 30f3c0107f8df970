import Brainfuck.Json
import Brainfuck.Text.Integer

/-!
What the literal of a JSON number stands for: an integer of some width if it consists of digits
alone, and a double if it is not beyond the greatest one.
-/

namespace Brainfuck.Json.Number

section Integers

def natural? (literal : Bytes) : Option Nat :=
  (Integer.magnitude 10 false 0 literal).toOption

/-- Whether a literal is an integer of so many bits without a sign. Minus zero is none. -/
def isUnsigned (bits : Nat) (literal : Bytes) : Bool :=
  (natural? literal).any (· < Nat.pow 2 bits)

def isSigned (bits : Nat) (literal : Bytes) : Bool :=
  match minus literal with
  | ([], digits) => (natural? digits).any (· < Nat.pow 2 (bits - 1))
  | (_, digits) => (natural? digits).any (· ≤ Nat.pow 2 (bits - 1))

end Integers

section Doubles

structure Decimal where
  digits : Bytes
  exponent : Int
  deriving DecidableEq, Repr

def mantissa (text : Bytes) : Bytes × Bytes × Bytes :=
  match text.span isDigit with
  | (whole, 0x2E :: rest) => (whole, rest.span isDigit)
  | (whole, rest) => (whole, [], rest)

/-- The exponent of a literal, from its mark on. One beyond 64 bits is as good as 2^64, since no
literal has as many digits. -/
def exponent : Bytes → Int
  | [] => 0
  | _ :: text =>
      match sign text with
      | (sign, digits) =>
          let size : Int := (natural? digits).getD 0x10000000000000000
          if sign = [0x2D] then -size else size

def decimal (literal : Bytes) : Decimal :=
  let (whole, fraction, rest) := mantissa (minus literal).2
  ⟨whole ++ fraction, exponent rest - fraction.length⟩

/-- The least number that is not rounded to a finite double: half a unit above the greatest. -/
def doubleBound : Nat := Nat.pow 2 1024 - Nat.pow 2 970

def doubleDigits : Nat := 309

/-- The first digits of a number, of which as many as the bound has stand before the point. -/
def leading (digits : Bytes) : Nat :=
  (List.range doubleDigits).foldl
    (fun total place => total * 10 + ((digits.getD place 0x30).toNat - 0x30)) 0

def isDouble (literal : Bytes) : Bool :=
  let decimal := decimal literal
  let digits := decimal.digits.dropWhile (· = 0x30)
  let places := digits.length + decimal.exponent
  digits.isEmpty || places < doubleDigits ||
    (places = doubleDigits && leading (digits.take doubleDigits) < doubleBound)

end Doubles

end Brainfuck.Json.Number
