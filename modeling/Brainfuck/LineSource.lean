import Brainfuck.Error
import Brainfuck.Text.Utf8

/-!
Input by lines. A source answers each request with a line and perhaps an error. Lines come from
a list, from a byte stream, or as any sequence of answers.
-/

namespace Brainfuck

structure Answer where
  line : Bytes
  error : Option Error

def Answer.exhausted : Answer :=
  ⟨[], some .endOfInput⟩

/-- A byte stream: the bytes that are still to come, and the error it gives after them, on
every later read too. -/
structure Reader where
  rest : Bytes
  ending : Error

namespace Reader

def ofText (text : Bytes) : Reader :=
  ⟨text, .endOfInput⟩

def cutLine? : Bytes → Option (Bytes × Bytes)
  | [] => none
  | byte :: rest =>
      if byte = 0x0A then some ([], rest)
      else (cutLine? rest).map fun (line, later) => (byte :: line, later)

/-- Read a line without its terminator, a line feed with or without a carriage return before
it. What is left after the last line feed is a line only if the stream ends with the end of
input itself and there is something left. -/
def next (reader : Reader) : Answer × Reader :=
  match cutLine? reader.rest with
  | some (line, later) => (⟨line.dropTrailing 0x0D, none⟩, { reader with rest := later })
  | none =>
      if reader.ending = .endOfInput ∧ reader.rest ≠ [] then
        (⟨reader.rest.dropTrailing 0x0D, none⟩, { reader with rest := [] })
      else (⟨[], some reader.ending⟩, { reader with rest := [] })

theorem cutLine?_append {line : Bytes} (whole : 0x0A ∉ line) (rest : Bytes) :
    cutLine? (line ++ 0x0A :: rest) = some (line, rest) := by
  induction line with
  | nil => rfl
  | cons byte line ih =>
      simp only [List.mem_cons, not_or] at whole
      rw [List.cons_append, cutLine?, if_neg (Ne.symm whole.1), ih whole.2]
      rfl

theorem cutLine?_eq_none {text : Bytes} (whole : 0x0A ∉ text) : cutLine? text = none := by
  induction text with
  | nil => rfl
  | cons byte rest ih =>
      simp only [List.mem_cons, not_or] at whole
      rw [cutLine?, if_neg (Ne.symm whole.1), ih whole.2]
      rfl

theorem next_of_line {line : Bytes} (whole : 0x0A ∉ line) (rest : Bytes) (ending : Error) :
    (Reader.mk (line ++ 0x0A :: rest) ending).next =
      (⟨line.dropTrailing 0x0D, none⟩, ⟨rest, ending⟩) := by
  simp only [next, cutLine?_append whole]

end Reader

inductive LineSource where
  | listed (lines : List Bytes)
  | reading (reader : Reader)
  | stream (answer : Nat → Answer) (served : Nat)

namespace LineSource

def next : LineSource → Answer × LineSource
  | .listed [] => (.exhausted, .listed [])
  | .listed (line :: lines) => (⟨line, none⟩, .listed lines)
  | .reading reader =>
      let (answer, later) := reader.next
      (answer, .reading later)
  | .stream answer served => (answer served, .stream answer (served + 1))

def ofAnswers (answers : List Answer) : LineSource :=
  let table := answers.toArray
  .stream (fun index => table.getD index .exhausted) 0

def take (source : LineSource) : Nat → List Answer
  | 0 => []
  | count + 1 =>
      let (answer, later) := source.next
      answer :: later.take count

def drop (source : LineSource) : Nat → LineSource
  | 0 => source
  | count + 1 => source.next.2.drop count

def answer (source : LineSource) (index : Nat) : Answer :=
  (source.drop index).next.1

theorem drop_succ (source : LineSource) (count : Nat) :
    source.drop (count + 1) = (source.drop count).next.2 := by
  induction count generalizing source with
  | zero => rfl
  | succ count ih => exact ih source.next.2

theorem take_drop (source : LineSource) (count more : Nat) :
    (source.drop count).take more = (source.take (count + more)).drop count := by
  induction count generalizing source with
  | zero => simp [drop]
  | succ count ih =>
      rw [Nat.add_right_comm]
      exact ih source.next.2

end LineSource

/-- The low byte of the first character of a line, 0 for an empty line. A first byte that begins
no character is taken as it is. -/
def firstCharCode (line : Bytes) : UInt8 :=
  match line with
  | [] => 0
  | byte :: _ =>
      match Utf8.decode? line with
      | some (char, _) => UInt8.ofNat char.toNat
      | none => byte

end Brainfuck
