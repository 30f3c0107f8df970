import Brainfuck.Text.Printable
import Brainfuck.Text.Utf8

/-!
Double-quoted texts in messages. Printable characters stand for themselves, the quote and the
backslash are escaped, control characters have their short escapes, and what is left is written
in hexadecimal: a byte that belongs to no character with two digits, a character by its size.
-/

namespace Brainfuck.Quoted

def hexDigit (value : Nat) : UInt8 :=
  UInt8.ofNat (if value < 10 then 0x30 + value else 0x57 + value)

def hex : Nat → Nat → Bytes
  | 0, _ => []
  | width + 1, value => hex width (value / 16) ++ [hexDigit (value % 16)]

/-- The letter after the backslash for a control character that has one. -/
def shortEscape? (code : Nat) : Option Char :=
  match code with
  | 0x07 => some 'a'
  | 0x08 => some 'b'
  | 0x09 => some 't'
  | 0x0A => some 'n'
  | 0x0B => some 'v'
  | 0x0C => some 'f'
  | 0x0D => some 'r'
  | _ => none

def char (value : Char) : Bytes :=
  if value = '"' ∨ value = '\\' then utf8 "\\" ++ String.utf8EncodeChar value
  else if Printable.isPrintable value then String.utf8EncodeChar value
  else
    match shortEscape? value.toNat with
    | some letter => utf8 "\\" ++ String.utf8EncodeChar letter
    | none =>
        if value.toNat < 0x20 ∨ value.toNat = 0x7F then utf8 "\\x" ++ hex 2 value.toNat
        else if value.toNat < 0x10000 then utf8 "\\u" ++ hex 4 value.toNat
        else utf8 "\\U" ++ hex 8 value.toNat

def piece : Utf8.Piece → Bytes
  | .char value => char value
  | .stray byte => utf8 "\\x" ++ hex 2 byte.toNat

def encode (text : Bytes) : Bytes :=
  utf8 "\"" ++ (Utf8.pieces text).flatMap piece ++ utf8 "\""

end Brainfuck.Quoted
