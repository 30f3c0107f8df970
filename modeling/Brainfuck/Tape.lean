import Brainfuck.Error.Fault

/-!
The tape: a ring of byte cells with a cursor. Its size fits in a signed 64-bit word, so every
word is the index of a cell, counted round the ring from cell 0.
-/

namespace Brainfuck

structure Tape where
  cells : Array UInt8
  cursor : Nat
  inside : cursor < cells.size
  fits : cells.size < 0x8000000000000000

namespace Tape

def size (tape : Tape) : Nat :=
  tape.cells.size

def blank (size : Nat) (nonempty : 0 < size) (fits : size < 0x8000000000000000) : Tape where
  cells := Array.replicate size 0
  cursor := 0
  inside := by simpa using nonempty
  fits := by simpa using fits

def ofSize (size : Int64) : Except Fault Tape :=
  if positive : 1 ≤ size.toInt then
    .ok (blank size.toInt.toNat (by omega) (by have := size.toInt_lt; omega))
  else .error (.invalidTapeSize size.toInt)

def get : Tape → UInt8
  | ⟨cells, cursor, _, _⟩ => cells[cursor]

def set (value : UInt8) : Tape → Tape
  | ⟨cells, cursor, inside, fits⟩ =>
      ⟨cells.set cursor value inside, cursor, by simpa using inside, by simpa using fits⟩

@[inline] def modify (change : UInt8 → UInt8) : Tape → Tape
  | ⟨cells, cursor, inside, fits⟩ =>
      ⟨cells.set cursor (change cells[cursor]) inside, cursor, by simpa using inside,
        by simpa using fits⟩

def increment (tape : Tape) : Tape :=
  tape.modify (· + 1)

def decrement (tape : Tape) : Tape :=
  tape.modify (· - 1)

/-- Move the cursor to the next cell, from the last cell to the first. -/
def right : Tape → Tape
  | ⟨cells, cursor, inside, fits⟩ =>
      if next : cursor + 1 < cells.size then ⟨cells, cursor + 1, next, fits⟩
      else ⟨cells, 0, by omega, fits⟩

/-- Move the cursor to the cell before, from the first cell to the last. -/
def left : Tape → Tape
  | ⟨cells, cursor, inside, fits⟩ =>
      if cursor = 0 then ⟨cells, cells.size - 1, by omega, fits⟩
      else ⟨cells, cursor - 1, by omega, fits⟩

def reset (tape : Tape) : Tape :=
  blank tape.cells.size (Nat.zero_lt_of_lt tape.inside) tape.fits

/-- An index brought into the range from 0 up to `size`: the remainder has the sign of the
index, and a negative one is moved up by one turn. -/
def wrapIndex (index size : Int64) : Int64 :=
  let remainder := index % size
  if remainder < 0 then remainder + size else remainder

def cellAt (tape : Tape) (index : Int64) : UInt8 :=
  tape.cells.getD (wrapIndex index (Int64.ofNat tape.cells.size)).toNatClampNeg 0

@[simp] theorem size_set (value : UInt8) (tape : Tape) : (tape.set value).size = tape.size := by
  simp [set, size]

@[simp] theorem size_modify (change : UInt8 → UInt8) (tape : Tape) :
    (tape.modify change).size = tape.size := by
  simp [modify, size]

@[simp] theorem size_increment (tape : Tape) : tape.increment.size = tape.size :=
  size_modify _ tape

@[simp] theorem size_decrement (tape : Tape) : tape.decrement.size = tape.size :=
  size_modify _ tape

@[simp] theorem size_right (tape : Tape) : tape.right.size = tape.size := by
  simp only [right, size]
  split <;> rfl

@[simp] theorem size_left (tape : Tape) : tape.left.size = tape.size := by
  simp only [left, size]
  split <;> rfl

@[simp] theorem size_reset (tape : Tape) : tape.reset.size = tape.size := by
  simp [reset, blank, size]

@[simp] theorem cells_right (tape : Tape) : tape.right.cells = tape.cells := by
  simp only [right]
  split <;> rfl

@[simp] theorem cells_left (tape : Tape) : tape.left.cells = tape.cells := by
  simp only [left]
  split <;> rfl

theorem cursor_right (tape : Tape) :
    tape.right.cursor = if tape.cursor + 1 < tape.size then tape.cursor + 1 else 0 := by
  simp only [right, size]
  split <;> simp [*]

theorem cursor_left (tape : Tape) :
    tape.left.cursor = if tape.cursor = 0 then tape.size - 1 else tape.cursor - 1 := by
  simp only [left, size]
  split <;> rfl

theorem reset_of_size {first second : Tape} (same : first.size = second.size) :
    first.reset = second.reset := by
  simp only [size] at same
  simp only [reset, same]

end Tape

end Brainfuck
