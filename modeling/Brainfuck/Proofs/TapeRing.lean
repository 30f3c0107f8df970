import Brainfuck.Tape
import Mathlib.Data.ZMod.Basic

/-!
The tape as a ring of residues. A wheel has an integer position that is never wrapped, and a value
modulo 256 for each residue modulo its size. A tape wraps its cursor by comparison and an index by
a remainder in 64-bit words; both lead to the cell that the wheel has at the position.
-/

namespace Brainfuck.Tape

/-- What can be done to a tape. -/
inductive Operation where
  | increment
  | decrement
  | left
  | right
  | set (value : UInt8)
  | reset
  deriving DecidableEq, Repr

def perform (tape : Tape) : Operation → Tape
  | .increment => tape.increment
  | .decrement => tape.decrement
  | .left => tape.left
  | .right => tape.right
  | .set value => tape.set value
  | .reset => tape.reset

def performAll (tape : Tape) (operations : List Operation) : Tape :=
  operations.foldl perform tape

structure Wheel (length : Nat) where
  position : Int
  cells : ZMod length → ZMod 256

namespace Wheel

variable {length : Nat}

def blank (length : Nat) : Wheel length :=
  ⟨0, fun _ => 0⟩

/-- The value at any integer. -/
def value (wheel : Wheel length) (index : Int) : ZMod 256 :=
  wheel.cells index

def write (wheel : Wheel length) (value : ZMod 256) : Wheel length :=
  { wheel with cells := Function.update wheel.cells wheel.position value }

def perform (wheel : Wheel length) : Operation → Wheel length
  | .increment => wheel.write (wheel.value wheel.position + 1)
  | .decrement => wheel.write (wheel.value wheel.position - 1)
  | .left => { wheel with position := wheel.position - 1 }
  | .right => { wheel with position := wheel.position + 1 }
  | .set value => wheel.write value.toNat
  | .reset => blank length

def performAll (wheel : Wheel length) (operations : List Operation) : Wheel length :=
  operations.foldl perform wheel

end Wheel

/-- A tape that holds what a wheel holds: its cursor is the position modulo the length, and its
cells are those of the residues from 0 on. -/
structure Represents {length : Nat} (tape : Tape) (wheel : Wheel length) : Prop where
  size : tape.size = length
  cursor : (tape.cursor : Int) = wheel.position % length
  cells : ∀ (index : Nat) (inside : index < tape.cells.size),
    ((tape.cells[index]).toNat : ZMod 256) = wheel.cells index

section Residues

theorem cast_succ (cell : UInt8) : ((cell + 1).toNat : ZMod 256) = cell.toNat + 1 := by
  rw [UInt8.toNat_add, ← Nat.cast_add_one]
  exact ZMod.natCast_mod _ 256

theorem cast_pred (cell : UInt8) : ((cell - 1).toNat : ZMod 256) = cell.toNat - 1 := by
  have back := cast_succ (cell - 1)
  rw [UInt8.sub_add_cancel] at back
  rw [back, add_sub_cancel_right]

/-- A cell is the least number of its residue. -/
theorem toNat_eq_val {cell : UInt8} {residue : ZMod 256}
    (same : (cell.toNat : ZMod 256) = residue) : cell.toNat = residue.val := by
  rw [← same, ZMod.val_natCast]
  exact (Nat.mod_eq_of_lt cell.toNat_lt).symm

end Residues

section Steps

variable {length : Nat} {tape : Tape} {wheel : Wheel length}

theorem Represents.here (held : Represents tape wheel) :
    (tape.cursor : ZMod length) = wheel.position := by
  rw [← Int.cast_natCast, held.cursor]
  exact ZMod.intCast_mod _ length

theorem Represents.get (held : Represents tape wheel) :
    (tape.get.toNat : ZMod 256) = wheel.value wheel.position := by
  rw [Wheel.value, ← held.here]
  exact held.cells tape.cursor tape.inside

theorem set_represents (held : Represents tape wheel) (value : UInt8) :
    Represents (tape.set value) (wheel.write value.toNat) := by
  constructor
  · rw [size_set, held.size]
  · exact held.cursor
  · intro index inside
    have bound : index < tape.cells.size := by simpa [set] using inside
    simp only [set, Array.getElem_set, Wheel.write]
    by_cases same : tape.cursor = index
    · subst same
      simp [held.here]
    · -- Two places of one tape are never the same residue.
      have apart : (index : ZMod length) ≠ wheel.position := by
        rw [← held.here, ne_eq, ZMod.natCast_eq_natCast_iff', ← held.size, size,
          Nat.mod_eq_of_lt bound, Nat.mod_eq_of_lt tape.inside]
        exact Ne.symm same
      simp [same, apart, held.cells index bound]

theorem increment_represents (held : Represents tape wheel) :
    Represents tape.increment (wheel.perform .increment) := by
  have written := set_represents held (tape.get + 1)
  rwa [cast_succ, held.get] at written

theorem decrement_represents (held : Represents tape wheel) :
    Represents tape.decrement (wheel.perform .decrement) := by
  have written := set_represents held (tape.get - 1)
  rwa [cast_pred, held.get] at written

/-- Moves change the cursor and no cell. -/
theorem Represents.turn (held : Represents tape wheel) {moved : Tape} {position : Int}
    (kept : moved.cells = tape.cells) (cursor : (moved.cursor : Int) = position % length) :
    Represents moved { wheel with position } := by
  obtain ⟨cells, place, inside, fits⟩ := moved
  simp only at kept
  subst kept
  exact ⟨held.size, cursor, held.cells⟩

theorem right_represents (held : Represents tape wheel) :
    Represents tape.right (wheel.perform .right) := by
  have within : tape.cursor < tape.size := tape.inside
  have bound := held.size
  have moved : (wheel.position + 1) % length = (tape.cursor + 1) % length := by
    rw [held.cursor, Int.emod_add_emod]
  apply held.turn (cells_right tape)
  rw [moved, cursor_right]
  split
  · exact (Int.emod_eq_of_lt (by omega) (by omega)).symm
  · have last : (tape.cursor + 1 : Int) = length := by omega
    simp [last]

theorem left_represents (held : Represents tape wheel) :
    Represents tape.left (wheel.perform .left) := by
  have within : tape.cursor < tape.size := tape.inside
  have bound := held.size
  have moved : (wheel.position - 1) % length = (tape.cursor - 1) % length := by
    rw [held.cursor, Int.emod_sub_emod]
  apply held.turn (cells_left tape)
  rw [moved, cursor_left]
  split
  · -- A step back from cell 0 is a step back from one whole turn.
    rw [← Int.add_emod_right, Int.emod_eq_of_lt (by omega) (by omega)]
    omega
  · rw [Int.emod_eq_of_lt (by omega) (by omega)]
    omega

theorem blank_represents (nonempty : 0 < length) (fits : length < 0x8000000000000000) :
    Represents (Tape.blank length nonempty fits) (Wheel.blank length) := by
  constructor
  · simp [Tape.blank, Tape.size]
  · simp [Tape.blank, Wheel.blank]
  · intro index inside
    simp [Tape.blank, Wheel.blank]

theorem reset_represents (held : Represents tape wheel) :
    Represents tape.reset (wheel.perform .reset) := by
  obtain ⟨rfl, _, _⟩ := held
  exact blank_represents _ _

theorem perform_represents (held : Represents tape wheel) (operation : Operation) :
    Represents (tape.perform operation) (wheel.perform operation) := by
  cases operation with
  | increment => exact increment_represents held
  | decrement => exact decrement_represents held
  | left => exact left_represents held
  | right => exact right_represents held
  | set value => exact set_represents held value
  | reset => exact reset_represents held

theorem performAll_represents (held : Represents tape wheel) (operations : List Operation) :
    Represents (tape.performAll operations) (wheel.performAll operations) := by
  induction operations generalizing tape wheel with
  | nil => exact held
  | cons operation rest ih => exact ih (perform_represents held operation)

end Steps

section Wrapping

/-- The words on the way to a wrapped index are the integers that they stand for, and the index is
brought to its least residue. -/
structure WrapsExactly (index size : Int64) : Prop where
  remainder : (index % size).toInt = index.toInt.tmod size.toInt
  turn : index % size < 0 → (index % size + size).toInt = (index % size).toInt + size.toInt
  result : (wrapIndex index size).toInt = index.toInt % size.toInt

theorem wraps_exactly (index : Int64) {size : Int64} (positive : 0 < size.toInt) :
    WrapsExactly index size := by
  have remainder := Int64.toInt_mod index size
  have low := Int.lt_tmod_of_pos index.toInt positive
  have high := Int.tmod_lt_of_pos index.toInt positive
  have zero : (0 : Int64).toInt = 0 := rfl
  have turn : index % size < 0 →
      (index % size + size).toInt = (index % size).toInt + size.toInt := by
    intro negative
    have bound := size.toInt_lt
    rw [Int64.lt_iff_toInt_lt, zero] at negative
    rw [Int64.toInt_add]
    exact Int.bmod_eq_of_le (by omega) (by omega)
  refine ⟨remainder, turn, ?_⟩
  -- The truncated remainder is the least residue, or it is below 0 and one turn short of it.
  have least := Int.emod_nonneg index.toInt (Int.ne_of_gt positive)
  have below := Int.emod_lt_of_pos index.toInt positive
  have truncated := Int.tmod_eq_emod (a := index.toInt) (b := size.toInt)
  simp only [wrapIndex]
  split
  · rename_i negative
    rw [turn negative]
    rw [Int64.lt_iff_toInt_lt, zero] at negative
    split at truncated <;> omega
  · rename_i nonneg
    rw [Int64.lt_iff_toInt_lt, zero] at nonneg
    split at truncated <;> omega

theorem toInt_size (tape : Tape) : (Int64.ofNat tape.size).toInt = tape.size :=
  Int64.toInt_ofNat_of_lt tape.fits

theorem size_pos (tape : Tape) : 0 < tape.size :=
  Nat.zero_lt_of_lt tape.inside

theorem wraps_inside (tape : Tape) (index : Int64) :
    WrapsExactly index (Int64.ofNat tape.size) ∧
      (wrapIndex index (Int64.ofNat tape.size)).toNatClampNeg < tape.size := by
  have positive := size_pos tape
  have length := toInt_size tape
  have wrapped : WrapsExactly index (Int64.ofNat tape.size) := wraps_exactly index (by omega)
  refine ⟨wrapped, ?_⟩
  have below := Int.emod_lt_of_pos index.toInt (b := tape.size) (by omega)
  rw [← Int64.toNat_toInt, wrapped.result, length]
  omega

theorem Represents.cellAt {length : Nat} {tape : Tape} {wheel : Wheel length}
    (held : Represents tape wheel) (index : Int64) :
    ((tape.cellAt index).toNat : ZMod 256) = wheel.value index.toInt := by
  obtain ⟨wrapped, inside⟩ := wraps_inside tape index
  have residue : (((wrapIndex index (Int64.ofNat tape.size)).toNatClampNeg : Nat) : ZMod length) =
      index.toInt := by
    have positive := size_pos tape
    have least := Int.emod_nonneg index.toInt (b := tape.size) (by omega)
    rw [← Int64.toNat_toInt, ← Int.cast_natCast, wrapped.result, toInt_size,
      Int.toNat_of_nonneg least, held.size]
    exact ZMod.intCast_mod _ length
  have found := held.cells _ inside
  rw [residue] at found
  have shown : tape.cellAt index = tape.cells.getInternal _ inside := dif_pos inside
  rw [shown]
  exact found

end Wrapping

/-- A tape is a ring of residues. After any operations its cursor is the position of the wheel
modulo its size, and it shows the values of the wheel: under the cursor, and at every index that a
word can hold. -/
theorem tape_turns_as_wheel (size : Int64) (positive : 1 ≤ size.toInt) :
    ∃ tape, ofSize size = .ok tape ∧ ∀ operations : List Operation,
      let now := tape.performAll operations
      let wheel := (Wheel.blank size.toInt.toNat).performAll operations
      (now.size : Int) = size.toInt ∧ now.cursor < now.size ∧
      (now.cursor : Int) = wheel.position % size.toInt ∧
      now.get.toNat = (wheel.value wheel.position).val ∧
      ∀ index : Int64, WrapsExactly index (Int64.ofNat now.size) ∧
        (wrapIndex index (Int64.ofNat now.size)).toNatClampNeg < now.size ∧
        (now.cellAt index).toNat = (wheel.value index.toInt).val := by
  have bound := size.toInt_lt
  have length : (size.toInt.toNat : Int) = size.toInt := Int.toNat_of_nonneg (by omega)
  refine ⟨blank size.toInt.toNat (by omega) (by omega), dif_pos positive, ?_⟩
  intro operations now wheel
  have held : Represents now wheel := performAll_represents (blank_represents _ _) operations
  refine ⟨?_, now.inside, ?_, toNat_eq_val held.get, ?_⟩
  · rw [held.size, length]
  · rw [held.cursor, length]
  · intro index
    obtain ⟨wrapped, inside⟩ := wraps_inside now index
    exact ⟨wrapped, inside, toNat_eq_val (held.cellAt index)⟩

/-- A wheel of three cells: the lowest word is the index of cell 1, and two steps to the left of
cell 1 is cell 2. -/
theorem lowest_index_on_three_cells :
    1 ≤ (3 : Int64).toInt ∧ ∃ tape, ofSize 3 = .ok tape ∧
      (tape.performAll [.right, .set 7, .left, .left, .decrement]).cursor = 2 ∧
      (tape.performAll [.right, .set 7, .left, .left, .decrement]).get.toNat = 255 ∧
      ((tape.performAll [.right, .set 7, .left, .left, .decrement]).cellAt
        Int64.minValue).toNat = 7 := by
  have positive : 1 ≤ (3 : Int64).toInt := by decide
  obtain ⟨tape, made, shown⟩ := tape_turns_as_wheel 3 positive
  obtain ⟨_, _, cursor, under, indexed⟩ := shown [.right, .set 7, .left, .left, .decrement]
  refine ⟨positive, tape, made, ?_, ?_, ?_⟩
  · have place : ((Wheel.blank (3 : Int64).toInt.toNat).performAll
        [.right, .set 7, .left, .left, .decrement]).position % (3 : Int64).toInt = 2 := by decide
    omega
  · rw [under]
    decide
  · rw [(indexed Int64.minValue).2.2]
    decide

end Brainfuck.Tape
