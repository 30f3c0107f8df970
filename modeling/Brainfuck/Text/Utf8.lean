import Brainfuck.Text.Bytes

/-!
Reading UTF-8 one character at a time. Only the shortest encoding of a scalar value is a
character: a stray continuation byte, a truncated or overlong sequence, a surrogate and a value
above U+10FFFF are not.
-/

namespace Brainfuck.Utf8

def payload? (byte : UInt8) : Option Nat :=
  if 0x80 ≤ byte.toNat ∧ byte.toNat < 0xC0 then some (byte.toNat - 0x80) else none

/-- The character of a code that is not below the least one its encoding length is for. -/
def scalar? (least code : Nat) : Option Char :=
  if least ≤ code ∧ code.isValidChar then some (Char.ofNat code) else none

def decode? : Bytes → Option (Char × Bytes)
  | [] => none
  | lead :: rest =>
      let code := lead.toNat
      if code < 0x80 then some (Char.ofNat code, rest)
      else if code < 0xC0 then none
      else if code < 0xE0 then
        match rest with
        | b :: rest => do
            let low ← payload? b
            let char ← scalar? 0x80 ((code - 0xC0) * 64 + low)
            some (char, rest)
        | _ => none
      else if code < 0xF0 then
        match rest with
        | b :: c :: rest => do
            let middle ← payload? b
            let low ← payload? c
            let char ← scalar? 0x800 ((code - 0xE0) * 4096 + middle * 64 + low)
            some (char, rest)
        | _ => none
      else if code < 0xF8 then
        match rest with
        | b :: c :: d :: rest => do
            let high ← payload? b
            let middle ← payload? c
            let low ← payload? d
            let char ← scalar? 0x10000 ((code - 0xF0) * 262144 + high * 4096 + middle * 64 + low)
            some (char, rest)
        | _ => none
      else none

/-- A text as characters and as bytes that belong to no character. -/
inductive Piece where
  | char (value : Char)
  | stray (byte : UInt8)
  deriving DecidableEq, Repr

theorem decode?_shorter {text rest : Bytes} {char : Char}
    (read : decode? text = some (char, rest)) : rest.length < text.length := by
  unfold decode? at read
  split at read
  · simp at read
  · simp only [Option.bind_eq_bind] at read
    repeat' split at read
    all_goals first
      | (simp at read; done)
      | (simp only [Option.some.injEq, Prod.mk.injEq] at read; obtain ⟨_, rfl⟩ := read; simp)
      | (simp only [Option.bind_eq_some_iff, Option.some.injEq, Prod.mk.injEq] at read
         grind)

def pieces (text : Bytes) : List Piece :=
  match text with
  | [] => []
  | byte :: rest =>
      match _ : decode? (byte :: rest) with
      | some (char, later) => .char char :: pieces later
      | none => .stray byte :: pieces rest
termination_by text.length
decreasing_by
  · exact decode?_shorter ‹_›
  · simp

def isValid (text : Bytes) : Bool :=
  (pieces text).all fun piece =>
    match piece with
    | .char _ => true
    | .stray _ => false

def replacement : Bytes :=
  [0xEF, 0xBF, 0xBD]

def Piece.repaired : Piece → Bytes
  | .char value => String.utf8EncodeChar value
  | .stray _ => replacement

def repair (text : Bytes) : Bytes :=
  (pieces text).flatMap Piece.repaired

end Brainfuck.Utf8
