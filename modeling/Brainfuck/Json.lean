import Brainfuck.Text.Utf8

/-!
JSON texts, read strictly: one value with nothing but blanks around it, nested no deeper than a
bound. Numbers keep their literal. Texts are made valid UTF-8: a stray byte and half a surrogate
pair each become the replacement character.
-/

namespace Brainfuck

inductive Json where
  | null
  | bool (value : Bool)
  | number (literal : Bytes)
  | string (text : Bytes)
  | array (items : List Json)
  | object (members : List (Bytes × Json))
  deriving Repr

namespace Json

def deepest : Nat := 10000

def isBlank (byte : UInt8) : Bool :=
  byte = 0x20 || byte = 0x09 || byte = 0x0A || byte = 0x0D

def skip (text : Bytes) : Bytes :=
  text.dropWhile isBlank

section Numbers

def isDigit (byte : UInt8) : Bool :=
  0x30 ≤ byte.toNat && byte.toNat ≤ 0x39

def digits? (text : Bytes) : Option (Bytes × Bytes) :=
  let (digits, rest) := text.span isDigit
  if digits = [] then none else some (digits, rest)

/-- The integer part: a zero, or digits that do not begin with one. -/
def whole? : Bytes → Option (Bytes × Bytes)
  | 0x30 :: rest => some ([0x30], rest)
  | text => digits? text

def fraction? : Bytes → Option (Bytes × Bytes)
  | 0x2E :: rest => (digits? rest).map fun (digits, rest) => (0x2E :: digits, rest)
  | text => some ([], text)

def sign : Bytes → Bytes × Bytes
  | 0x2B :: rest => ([0x2B], rest)
  | 0x2D :: rest => ([0x2D], rest)
  | text => ([], text)

def minus : Bytes → Bytes × Bytes
  | 0x2D :: rest => ([0x2D], rest)
  | text => ([], text)

def exponent? : Bytes → Option (Bytes × Bytes)
  | [] => some ([], [])
  | mark :: text =>
      if mark = 0x65 ∨ mark = 0x45 then
        let (sign, text) := sign text
        (digits? text).map fun (digits, rest) => (mark :: sign ++ digits, rest)
      else some ([], mark :: text)

def number? (text : Bytes) : Option (Bytes × Bytes) := do
  let (minus, text) := minus text
  let (whole, text) ← whole? text
  let (fraction, text) ← fraction? text
  let (exponent, text) ← exponent? text
  return (minus ++ whole ++ fraction ++ exponent, text)

end Numbers

section Strings

def hexDigit? (byte : UInt8) : Option Nat :=
  let code := byte.toNat
  if 0x30 ≤ code ∧ code ≤ 0x39 then some (code - 0x30)
  else if 0x61 ≤ code ∧ code ≤ 0x66 then some (code - 0x61 + 10)
  else if 0x41 ≤ code ∧ code ≤ 0x46 then some (code - 0x41 + 10)
  else none

def unit? (a b c d : UInt8) : Option Nat := do
  return (((← hexDigit? a) * 16 + (← hexDigit? b)) * 16 + (← hexDigit? c)) * 16 + (← hexDigit? d)

def escape? (letter : UInt8) : Option UInt8 :=
  if letter = 0x22 ∨ letter = 0x5C ∨ letter = 0x2F then some letter
  else if letter = 0x62 then some 0x08
  else if letter = 0x66 then some 0x0C
  else if letter = 0x6E then some 0x0A
  else if letter = 0x72 then some 0x0D
  else if letter = 0x74 then some 0x09
  else none

def isHighSurrogate (unit : Nat) : Bool :=
  0xD800 ≤ unit && unit < 0xDC00

def isLowSurrogate (unit : Nat) : Bool :=
  0xDC00 ≤ unit && unit < 0xE000

def unpaired : Option Nat → Bytes
  | none => []
  | some _ => Utf8.replacement

/-- What a code unit adds to a text after a high surrogate or none, and the high surrogate
that is pending after it. -/
def addUnit (pending : Option Nat) (unit : Nat) : Bytes × Option Nat :=
  match pending with
  | some high =>
      if isLowSurrogate unit then
        (String.utf8EncodeChar (Char.ofNat (0x10000 + (high - 0xD800) * 0x400 + (unit - 0xDC00))),
          none)
      else (Utf8.replacement ++ (addUnit none unit).1, (addUnit none unit).2)
  | none =>
      if isHighSurrogate unit then ([], some unit)
      else if isLowSurrogate unit then (Utf8.replacement, none)
      else (String.utf8EncodeChar (Char.ofNat unit), none)
termination_by pending.isSome.toNat

def quoted : Option Nat → Bytes → Option (Bytes × Bytes)
  | pending, 0x22 :: rest => some (unpaired pending, rest)
  | pending, 0x5C :: 0x75 :: a :: b :: c :: d :: rest => do
      let unit ← unit? a b c d
      let (added, pending) := addUnit pending unit
      let (text, rest) ← quoted pending rest
      return (added ++ text, rest)
  | pending, 0x5C :: letter :: rest => do
      let byte ← escape? letter
      let (text, rest) ← quoted none rest
      return (unpaired pending ++ byte :: text, rest)
  | pending, byte :: rest => do
      if byte.toNat < 0x20 ∨ byte = 0x5C then none
      else
        let (text, rest) ← quoted none rest
        return (unpaired pending ++ byte :: text, rest)
  | _, [] => none

def string? (text : Bytes) : Option (Bytes × Bytes) :=
  (quoted none text).map fun (text, rest) => (Utf8.repair text, rest)

end Strings

def word? (text : Bytes) : Option (Json × Bytes) :=
  match Bytes.after? (utf8 "null") text, Bytes.after? (utf8 "true") text,
      Bytes.after? (utf8 "false") text with
  | some rest, _, _ => some (.null, rest)
  | _, some rest, _ => some (.bool true, rest)
  | _, _, some rest => some (.bool false, rest)
  | _, _, _ => none

def scalar? : Bytes → Option (Json × Bytes)
  | 0x22 :: rest => (string? rest).map fun (text, rest) => (.string text, rest)
  | text => (word? text).or ((number? text).map fun (literal, rest) => (.number literal, rest))

def name? (text : Bytes) : Option (Bytes × Bytes) :=
  match skip text with
  | 0x22 :: rest => do
      let (name, rest) ← string? rest
      match skip rest with
      | 0x3A :: rest => some (name, rest)
      | _ => none
  | _ => none

mutual

/-- A value that at most `room` arrays and objects may nest in, and the text after it. -/
def value? (fuel room : Nat) (text : Bytes) : Option (Json × Bytes) :=
  match fuel with
  | 0 => none
  | fuel + 1 =>
      match skip text, room with
      | 0x5B :: _, 0 => none
      | 0x7B :: _, 0 => none
      | 0x5B :: rest, room + 1 =>
          match skip rest with
          | 0x5D :: rest => some (.array [], rest)
          | rest => (items? fuel room rest).map fun (items, rest) => (.array items, rest)
      | 0x7B :: rest, room + 1 =>
          match skip rest with
          | 0x7D :: rest => some (.object [], rest)
          | rest => (members? fuel room rest).map fun (members, rest) => (.object members, rest)
      | text, _ => scalar? text

def items? (fuel room : Nat) (text : Bytes) : Option (List Json × Bytes) :=
  match fuel with
  | 0 => none
  | fuel + 1 => do
      let (first, rest) ← value? fuel room text
      match skip rest with
      | 0x2C :: rest => (items? fuel room rest).map fun (more, rest) => (first :: more, rest)
      | 0x5D :: rest => some ([first], rest)
      | _ => none

def members? (fuel room : Nat) (text : Bytes) : Option (List (Bytes × Json) × Bytes) :=
  match fuel with
  | 0 => none
  | fuel + 1 => do
      let (name, rest) ← name? text
      let (first, rest) ← value? fuel room rest
      match skip rest with
      | 0x2C :: rest =>
          (members? fuel room rest).map fun (more, rest) => ((name, first) :: more, rest)
      | 0x7D :: rest => some ([(name, first)], rest)
      | _ => none

end

def parse (text : Bytes) : Option Json := do
  -- Each level of a value and each of its items takes a byte at least.
  let (json, rest) ← value? (2 * text.length + 2) deepest text
  if skip rest = [] then some json else none

end Json

end Brainfuck
