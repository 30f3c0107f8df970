import Brainfuck.Text.Bytes

/-!
64-bit signed integers as text. They are written in decimal. They are read either as plain
decimals or as literals, whose first digits choose the base and whose digits may be grouped by
underscores. Digits are taken from left to right in 64 unsigned bits: the first one that does
not fit makes the text out of range, whatever follows it.
-/

namespace Brainfuck.Integer

def natDigits (value : Nat) : Bytes :=
  if value < 10 then [UInt8.ofNat (0x30 + value)]
  else natDigits (value / 10) ++ [UInt8.ofNat (0x30 + value % 10)]
termination_by value
decreasing_by omega

def ofNat (value : Nat) : Bytes :=
  natDigits value

def ofInt : Int → Bytes
  | .ofNat value => natDigits value
  | .negSucc value => 0x2D :: natDigits (value + 1)

inductive Fault where
  | malformed
  | outOfRange
  deriving DecidableEq, Repr

def digit? (byte : UInt8) : Option Nat :=
  let code := byte.toNat
  if 0x30 ≤ code ∧ code ≤ 0x39 then some (code - 0x30)
  else if 0x61 ≤ code ∧ code ≤ 0x7A then some (code - 0x61 + 10)
  else if 0x41 ≤ code ∧ code ≤ 0x5A then some (code - 0x41 + 10)
  else none

/-- The value of the digits of a text in a base, continuing from `total`. Underscores are
passed over if `grouped`. -/
def magnitude (base : Nat) (grouped : Bool) : Nat → Bytes → Except Fault Nat
  | total, [] => .ok total
  | total, byte :: rest =>
      if grouped ∧ byte = 0x5F then magnitude base grouped total rest
      else
        match digit? byte with
        | none => .error .malformed
        | some digit =>
            if base ≤ digit then .error .malformed
            else if 0x10000000000000000 ≤ total * base + digit then .error .outOfRange
            else magnitude base grouped (total * base + digit) rest

def signed (text : Bytes) : Bool × Bytes :=
  match text with
  | byte :: rest => if byte = 0x2D then (true, rest) else if byte = 0x2B then (false, rest) else (false, text)
  | [] => (false, text)

def withSign (negative : Bool) (total : Nat) : Except Fault Int64 :=
  if negative then
    if total ≤ 0x8000000000000000 then .ok (Int64.ofInt (-total)) else .error .outOfRange
  else if total < 0x8000000000000000 then .ok (Int64.ofInt total) else .error .outOfRange

def readDecimal (text : Bytes) : Except Fault Int64 := do
  let (negative, digits) := signed text
  if digits.isEmpty then throw .malformed
  withSign negative (← magnitude 10 false 0 digits)

def lowered (byte : UInt8) : UInt8 :=
  byte ||| 0x20

/-- The base that the first digits of an unsigned literal choose, and the digits after its mark.
A mark needs a digit after it; without one, as after any other leading zero, the base is 8. -/
def baseOf : Bytes → Nat × Bytes
  | 0x30 :: mark :: next :: rest =>
      if lowered mark = 0x62 then (2, next :: rest)
      else if lowered mark = 0x6F then (8, next :: rest)
      else if lowered mark = 0x78 then (16, next :: rest)
      else (8, mark :: next :: rest)
  | 0x30 :: rest => (8, rest)
  | text => (10, text)

inductive Seen where
  | start
  | digit
  | underscore
  | other
  deriving DecidableEq, Repr

/-- Each underscore stands between two digits, where a base mark counts as a digit. -/
def grouping (hexadecimal : Bool) : Seen → Bytes → Bool
  | seen, [] => seen != .underscore
  | seen, byte :: rest =>
      let code := byte.toNat
      if (0x30 ≤ code ∧ code ≤ 0x39) ∨
          (hexadecimal ∧ 0x61 ≤ (lowered byte).toNat ∧ (lowered byte).toNat ≤ 0x66) then
        grouping hexadecimal .digit rest
      else if byte = 0x5F then seen == .digit && grouping hexadecimal .underscore rest
      else seen != .underscore && grouping hexadecimal .other rest

def wellGrouped : Bytes → Bool
  | 0x30 :: mark :: rest =>
      if lowered mark = 0x78 then grouping true .digit rest
      else if lowered mark = 0x62 ∨ lowered mark = 0x6F then grouping false .digit rest
      else grouping false .start (0x30 :: mark :: rest)
  | text => grouping false .start text

def readLiteral (text : Bytes) : Except Fault Int64 := do
  let (negative, unsigned) := signed text
  if unsigned.isEmpty then throw .malformed
  let (base, digits) := baseOf unsigned
  let total ← magnitude base true 0 digits
  if digits.contains 0x5F && !wellGrouped unsigned then throw .malformed
  withSign negative total

end Brainfuck.Integer
