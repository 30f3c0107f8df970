import Brainfuck.Bundle.Config
import Brainfuck.Error.Kind
import Brainfuck.Proofs.Decimal
import Brainfuck.Proofs.Trimming

/-!
Integers in annotations. A value is read exactly if it is a decimal of a 64-bit integer with any
white space around it. The decimal is the one that the grammar tells: it has no mark of a base and
no underscores, and zeros in front do not change its base.
-/

namespace Brainfuck.Bundle

/-- A value is a decimal of an integer, apart from the white space around it. -/
def Denotes (value : Bytes) (integer : Int) : Prop :=
  ∃ core, WhiteSpace.Trimmed value core ∧ Integer.Decimal integer core

/-- The integers of 64 signed bits. -/
def Fits (integer : Int) : Prop :=
  -0x8000000000000000 ≤ integer ∧ integer ≤ 0x7FFFFFFFFFFFFFFF

variable {value : Bytes}

theorem readDecimal_trim_iff {number : Int64} :
    Integer.readDecimal (WhiteSpace.trim value) = .ok number ↔ Denotes value number.toInt := by
  rw [Integer.readDecimal_eq_ok_iff]
  constructor
  · intro decimal
    exact ⟨_, WhiteSpace.trimmed_trim value, decimal⟩
  · rintro ⟨core, trimmed, decimal⟩
    rwa [trimmed.trim_eq]

/-- The 64-bit numbers are the integers that fit. -/
theorem exists_read_iff :
    (∃ number, Integer.readDecimal (WhiteSpace.trim value) = .ok number) ↔
      ∃ integer, Denotes value integer ∧ Fits integer := by
  constructor
  · rintro ⟨number, read⟩
    have below := number.toInt_lt
    exact ⟨number.toInt, readDecimal_trim_iff.mp read, number.le_toInt, by omega⟩
  · rintro ⟨integer, denotes, low, high⟩
    refine ⟨Int64.ofInt integer, readDecimal_trim_iff.mpr ?_⟩
    rwa [Int64.toInt_ofInt_of_le low (by omega)]

theorem not_denotes_of_fault {fault : Integer.Fault}
    (read : Integer.readDecimal (WhiteSpace.trim value) = .error fault) :
    ¬ ∃ integer, Denotes value integer ∧ Fits integer := by
  rw [← exists_read_iff, read]
  rintro ⟨number, refused⟩
  cases refused

theorem denotes_of_decimal {integer : Int} {front core back : Bytes}
    (decimal : Integer.Decimal integer core) (first : WhiteSpace.Blank front)
    (second : WhiteSpace.Blank back) : Denotes (front ++ core ++ back) integer :=
  ⟨core, ⟨⟨front, back, first, second, rfl⟩, WhiteSpace.bare_of_visible decimal.visible⟩, decimal⟩

section Lookup

variable {annotations : Table Bytes Bytes} {key : Bytes} {default : Int64}

theorem annotation_absent (absent : annotations.get? key = none) :
    annotation annotations key default = .ok default := by
  unfold annotation
  rw [absent]

theorem annotation_eq_ok_iff (found : annotations.get? key = some value) {number : Int64} :
    annotation annotations key default = .ok number ↔
      Integer.readDecimal (WhiteSpace.trim value) = .ok number := by
  unfold annotation
  rw [found]
  dsimp only
  cases Integer.readDecimal (WhiteSpace.trim value) with
  | ok read => simp only [Except.ok.injEq]
  | error fault =>
      constructor
      · intro refused
        cases refused
      · intro refused
        cases refused

theorem annotation_refused (found : annotations.get? key = some value)
    (refused : ¬ ∃ integer, Denotes value integer ∧ Fits integer) :
    ∃ error, annotation annotations key default = .error error ∧
      error.classes = [.invalidArgument] := by
  cases read : Integer.readDecimal (WhiteSpace.trim value) with
  | ok number => exact absurd (exists_read_iff.mp ⟨number, read⟩) refused
  | error fault =>
      unfold annotation
      rw [found]
      simp only [read]
      exact ⟨_, rfl, rfl⟩

end Lookup

/-- An annotation is read as the integer that it denotes, and refused as an invalid argument if it
denotes none of 64 bits. Without the key the default stands. So every 64-bit number that is written
in decimal is read back, whatever white space is put around it. -/
theorem annotations_denote_integers (annotations : Table Bytes Bytes) (key : Bytes)
    (default : Int64) :
    (annotations.get? key = none → annotation annotations key default = .ok default) ∧
    ∀ value, annotations.get? key = some value →
      (∀ number : Int64,
        annotation annotations key default = .ok number ↔ Denotes value number.toInt) ∧
      ((∃ number, annotation annotations key default = .ok number) ↔
        ∃ integer, Denotes value integer ∧ Fits integer) ∧
      ((¬ ∃ integer, Denotes value integer ∧ Fits integer) →
        ∃ error, annotation annotations key default = .error error ∧
          error.classes = [.invalidArgument]) ∧
      ∀ (number : Int64) (front back : Bytes), WhiteSpace.Blank front → WhiteSpace.Blank back →
        value = front ++ Integer.ofInt number.toInt ++ back →
        annotation annotations key default = .ok number := by
  refine ⟨annotation_absent, ?_⟩
  intro value found
  refine ⟨?_, ?_, annotation_refused found, ?_⟩
  · intro number
    rw [annotation_eq_ok_iff found, readDecimal_trim_iff]
  · rw [← exists_read_iff]
    exact exists_congr fun number => annotation_eq_ok_iff found
  · rintro number front back first second rfl
    have decimal := Integer.ofInt_decimal number.toInt
    rw [annotation_eq_ok_iff found, readDecimal_trim_iff]
    exact denotes_of_decimal decimal first second

/-- The lowest number between wide spaces and with zeros in front, and a written number. The first
number that is too high and one with the mark of a base are refused. -/
theorem lowest_limit_is_read :
    annotation [(loopLimitKey, utf8 "\u2003-009223372036854775808\u3000\n")] loopLimitKey (-1) =
      .ok (-0x8000000000000000) ∧
    annotation [(loopLimitKey, utf8 " 500 ")] loopLimitKey (-1) = .ok 500 ∧
    (∃ error, annotation [(loopLimitKey, utf8 "9223372036854775808")] loopLimitKey (-1) =
      .error error ∧ error.classes = [.invalidArgument]) ∧
    (∃ error, annotation [(loopLimitKey, utf8 " 0x10 ")] loopLimitKey (-1) =
      .error error ∧ error.classes = [.invalidArgument]) ∧
    annotation [(loopLimitKey, utf8 " 0x10 ")] tapeSizeKey 1024 = .ok 1024 := by
  have present (value : Bytes) : Table.get? [(loopLimitKey, value)] loopLimitKey = some value := by
    simp [Table.get?]
  have theory (value : Bytes) :=
    (annotations_denote_integers [(loopLimitKey, value)] loopLimitKey (-1)).2 value (present value)
  refine ⟨?_, ?_, ?_, ?_, ?_⟩
  · have spells : Integer.Spells 10 false 0x8000000000000000 (utf8 "009223372036854775808") :=
      Integer.spells_of_magnitude (by decide) (by decide) (by decide +kernel)
    have line : WhiteSpace.Blank (utf8 "\n") := .cons .nil (by decide : '\n'.toNat ∈ _)
    have wide : WhiteSpace.Blank (utf8 "\u2003") := .cons .nil (by decide : '\u2003'.toNat ∈ _)
    have wider : WhiteSpace.Blank (utf8 "\u3000\n") := line.cons (by decide : '\u3000'.toNat ∈ _)
    have parts : utf8 "\u2003-009223372036854775808\u3000\n" =
        utf8 "\u2003" ++ 0x2D :: utf8 "009223372036854775808" ++ utf8 "\u3000\n" := by
      decide +kernel
    rw [parts]
    exact ((theory _).1 _).mpr (denotes_of_decimal (.negative spells) wide wider)
  · have space : WhiteSpace.Blank (utf8 " ") := .cons .nil (by decide : ' '.toNat ∈ _)
    exact (theory _).2.2.2 500 _ _ space space (by decide +kernel)
  · exact (theory _).2.2.1 (not_denotes_of_fault (by rfl))
  · exact (theory _).2.2.1 (not_denotes_of_fault (by rfl))
  · exact (annotations_denote_integers _ tapeSizeKey 1024).1 (by decide +kernel)

end Brainfuck.Bundle
