import Brainfuck.Text.Integer

/-!
Integer literals as a grammar. A literal is an optional sign, an optional mark of its base and
digits, between which underscores may stand. Reading takes each literal of a number that fits in 64
bits for that number, at both ends of the range too.
-/

namespace Brainfuck.Integer

section Digits

/-- The byte of a decimal digit. -/
def digitByte (digit : Nat) : UInt8 :=
  UInt8.ofNat (0x30 + digit)

inductive Digit : Nat → UInt8 → Prop where
  | decimal {digit : Nat} (small : digit < 10) : Digit digit (digitByte digit)
  | lower {letter : Nat} (small : letter < 6) : Digit (10 + letter) (UInt8.ofNat (0x61 + letter))
  | upper {letter : Nat} (small : letter < 6) : Digit (10 + letter) (UInt8.ofNat (0x41 + letter))

variable {digit : Nat} {byte : UInt8}

/-- The ranges of bytes that are digits. -/
theorem Digit.toNat_cases (written : Digit digit byte) :
    byte.toNat = 0x30 + digit ∧ digit < 10 ∨
      byte.toNat = 0x57 + digit ∧ 10 ≤ digit ∧ digit < 16 ∨
      byte.toNat = 0x37 + digit ∧ 10 ≤ digit ∧ digit < 16 := by
  cases written with
  | decimal small =>
      rw [digitByte, UInt8.toNat_ofNat']
      omega
  | lower small =>
      rw [UInt8.toNat_ofNat']
      omega
  | upper small =>
      rw [UInt8.toNat_ofNat']
      omega

theorem Digit.read (written : Digit digit byte) : digit? byte = some digit := by
  have ranges := written.toNat_cases
  simp only [digit?]
  split
  · congr 1
    omega
  · split
    · congr 1
      omega
    · split
      · congr 1
        omega
      · omega

theorem Digit.of_toNat (ranges : byte.toNat = 0x30 + digit ∧ digit < 10 ∨
      byte.toNat = 0x57 + digit ∧ 10 ≤ digit ∧ digit < 16 ∨
      byte.toNat = 0x37 + digit ∧ 10 ≤ digit ∧ digit < 16) : Digit digit byte := by
  have coded {code : Nat} (same : byte.toNat = code) : byte = UInt8.ofNat code := by
    rw [← same, UInt8.ofNat_toNat]
  rcases ranges with ⟨same, small⟩ | ⟨same, low, high⟩ | ⟨same, low, high⟩
  · rw [coded same]
    exact .decimal small
  · obtain ⟨letter, rfl⟩ := Nat.exists_eq_add_of_le low
    rw [coded (by omega : byte.toNat = 0x61 + letter)]
    exact .lower (by omega)
  · obtain ⟨letter, rfl⟩ := Nat.exists_eq_add_of_le low
    rw [coded (by omega : byte.toNat = 0x41 + letter)]
    exact .upper (by omega)

theorem Digit.of_read (read : digit? byte = some digit) (small : digit < 16) :
    Digit digit byte := by
  apply Digit.of_toNat
  simp only [digit?] at read
  split at read
  · have := Option.some.inj read
    omega
  · split at read
    · have := Option.some.inj read
      omega
    · split at read
      · have := Option.some.inj read
        omega
      · cases read

theorem Digit.ne (written : Digit digit byte) {other : UInt8}
    (outside : other.toNat < 0x30 ∨ other.toNat = 0x5F) : byte ≠ other := by
  rintro rfl
  have ranges := written.toNat_cases
  omega

/-- What begins with a digit begins with no sign. -/
theorem Digit.signed_eq (written : Digit digit byte) (rest : Bytes) :
    signed (byte :: rest) = (false, byte :: rest) := by
  have minus : byte ≠ 0x2D := written.ne (.inl (by decide))
  have plus : byte ≠ 0x2B := written.ne (.inl (by decide))
  simp only [signed, minus, plus, ↓reduceIte]

end Digits

section Numerals

/-- Digits of a base, most significant first, with the number that they spell. If the numeral is
`grouped`, an underscore may stand between two of them. -/
inductive Spells (base : Nat) (grouped : Bool) : Nat → Bytes → Prop where
  | digit {digit : Nat} {byte : UInt8} (written : Digit digit byte) (proper : digit < base) :
      Spells base grouped digit [byte]
  | more {value digit : Nat} {front : Bytes} {byte : UInt8} (spells : Spells base grouped value front)
      (written : Digit digit byte) (proper : digit < base) :
      Spells base grouped (value * base + digit) (front ++ [byte])
  | group {value digit : Nat} {front : Bytes} {byte : UInt8} (allowed : grouped = true)
      (spells : Spells base grouped value front) (written : Digit digit byte)
      (proper : digit < base) :
      Spells base grouped (value * base + digit) (front ++ [0x5F, byte])

variable {base : Nat} {grouped : Bool} {value : Nat} {text : Bytes}

theorem magnitude_append (base : Nat) (grouped : Bool) (total : Nat) (front back : Bytes) :
    magnitude base grouped total (front ++ back) =
      (magnitude base grouped total front).bind fun reached =>
        magnitude base grouped reached back := by
  induction front generalizing total with
  | nil => rfl
  | cons byte rest ih =>
      simp only [List.cons_append, magnitude]
      split
      · exact ih total
      · split
        · rfl
        · split
          · rfl
          · split
            · rfl
            · exact ih _

theorem magnitude_digit {digit total : Nat} {byte : UInt8} (written : Digit digit byte)
    (proper : digit < base) (fits : total * base + digit < 0x10000000000000000) :
    magnitude base grouped total [byte] = .ok (total * base + digit) := by
  have apart : byte ≠ 0x5F := written.ne (.inr rfl)
  simp only [magnitude, apart, and_false, ↓reduceIte, written.read]
  rw [if_neg (by omega), if_neg (by omega)]

/-- A numeral is read as its number, if that fits in 64 bits. -/
theorem Spells.magnitude_eq (spells : Spells base grouped value text)
    (fits : value < 0x10000000000000000) : magnitude base grouped 0 text = .ok value := by
  induction spells with
  | digit written proper =>
      rw [magnitude_digit written proper (by omega)]
      congr 1
      omega
  | more spells written proper ih =>
      rename_i value digit front byte
      -- What stands in front is no larger than the whole, so no digit before the last overflows.
      have smaller : value ≤ value * base := Nat.le_mul_of_pos_right value (by omega)
      rw [magnitude_append, ih (by omega)]
      exact magnitude_digit written proper fits
  | group allowed spells written proper ih =>
      rename_i value digit front byte
      have smaller : value ≤ value * base := Nat.le_mul_of_pos_right value (by omega)
      have skipped : magnitude base grouped value [0x5F, byte] =
          magnitude base grouped value [byte] := by
        rw [magnitude, if_pos ⟨allowed, rfl⟩]
      rw [magnitude_append, ih (by omega)]
      exact skipped.trans (magnitude_digit written proper fits)

theorem digit_of_magnitude {total : Nat} {byte : UInt8} {rest : Bytes} (known : base ≤ 16)
    (read : magnitude base false total (byte :: rest) = .ok value) :
    ∃ digit, Digit digit byte ∧ digit < base ∧
      magnitude base false (total * base + digit) rest = .ok value := by
  simp only [magnitude, Bool.false_eq_true, false_and, ↓reduceIte] at read
  split at read
  · cases read
  · rename_i digit found
    split at read
    · cases read
    · split at read
      · cases read
      · exact ⟨digit, .of_read found (by omega), by omega, read⟩

/-- A numeral and what is read on from its number are a numeral together. -/
theorem Spells.append_read {total : Nat} {front rest : Bytes} (known : base ≤ 16)
    (spells : Spells base false total front)
    (read : magnitude base false total rest = .ok value) :
    Spells base false value (front ++ rest) := by
  induction rest generalizing total front with
  | nil =>
      cases read
      rwa [List.append_nil]
  | cons byte rest ih =>
      obtain ⟨digit, written, proper, later⟩ := digit_of_magnitude known read
      have whole := ih (spells.more written proper) later
      rwa [List.append_assoc] at whole

theorem spells_of_magnitude (known : base ≤ 16) (filled : text ≠ [])
    (read : magnitude base false 0 text = .ok value) : Spells base false value text := by
  cases text with
  | nil => contradiction
  | cons byte rest =>
      obtain ⟨digit, written, proper, later⟩ := digit_of_magnitude known read
      rw [Nat.zero_mul, Nat.zero_add] at later
      exact (Spells.digit written proper).append_read known later

theorem lowered_letter {letter : Nat} (small : letter < 6) :
    (lowered (UInt8.ofNat (0x61 + letter))).toNat = 0x61 + letter ∧
      (lowered (UInt8.ofNat (0x41 + letter))).toNat = 0x61 + letter := by
  revert letter
  decide

theorem grouping_digit {digit : Nat} {byte : UInt8} {hexadecimal : Bool}
    (written : Digit digit byte) (known : digit < 10 ∨ hexadecimal = true) (seen : Seen)
    (rest : Bytes) : grouping hexadecimal seen (byte :: rest) = grouping hexadecimal .digit rest := by
  rw [grouping]
  apply if_pos
  cases written with
  | decimal small =>
      left
      rw [digitByte, UInt8.toNat_ofNat']
      omega
  | lower small =>
      right
      rw [(lowered_letter small).1]
      exact ⟨known.resolve_left (by omega), by omega⟩
  | upper small =>
      right
      rw [(lowered_letter small).2]
      exact ⟨known.resolve_left (by omega), by omega⟩

theorem grouping_underscore (hexadecimal : Bool) (rest : Bytes) :
    grouping hexadecimal .digit (0x5F :: rest) = grouping hexadecimal .underscore rest := by
  cases hexadecimal <;> rfl

theorem Spells.grouping_append {hexadecimal : Bool} (spells : Spells base grouped value text)
    (known : base ≤ 10 ∨ hexadecimal = true) (seen : Seen) (rest : Bytes) :
    grouping hexadecimal seen (text ++ rest) = grouping hexadecimal .digit rest := by
  induction spells generalizing rest with
  | digit written proper =>
      exact grouping_digit written (known.imp_left (Nat.lt_of_lt_of_le proper)) seen rest
  | more spells written proper ih =>
      rw [List.append_assoc, ih]
      exact grouping_digit written (known.imp_left (Nat.lt_of_lt_of_le proper)) .digit rest
  | group allowed spells written proper ih =>
      rw [List.append_assoc, ih]
      exact (grouping_underscore hexadecimal _).trans
        (grouping_digit written (known.imp_left (Nat.lt_of_lt_of_le proper)) .underscore rest)

/-- The underscores of a numeral are well placed, whatever stands before it. -/
theorem Spells.wellPlaced (spells : Spells base grouped value text) {hexadecimal : Bool}
    (known : base ≤ 10 ∨ hexadecimal = true) (seen : Seen) :
    grouping hexadecimal seen text = true := by
  have whole := spells.grouping_append known seen []
  rwa [List.append_nil] at whole

theorem Spells.head (spells : Spells base grouped value text) :
    ∃ digit byte rest, Digit digit byte ∧ digit < base ∧ text = byte :: rest := by
  induction spells with
  | digit written proper => exact ⟨_, _, [], written, proper, rfl⟩
  | more spells written proper ih =>
      obtain ⟨digit, byte, rest, first, small, rfl⟩ := ih
      exact ⟨digit, byte, _, first, small, rfl⟩
  | group allowed spells written proper ih =>
      obtain ⟨digit, byte, rest, first, small, rfl⟩ := ih
      exact ⟨digit, byte, _, first, small, rfl⟩

end Numerals

section Literals

inductive Base where
  | decimal
  | hexadecimal
  | octal
  | binary
  deriving DecidableEq, Repr

namespace Base

def radix : Base → Nat
  | .decimal => 10
  | .hexadecimal => 16
  | .octal => 8
  | .binary => 2

/-- The letters that choose a base after a zero. -/
def marks : Base → List UInt8
  | .decimal => []
  | .hexadecimal => [0x78, 0x58]
  | .octal => [0x6F, 0x4F]
  | .binary => [0x62, 0x42]

end Base

/-- A literal without a sign. A decimal begins with a zero only if it is one. -/
inductive Unsigned : Base → Nat → Bytes → Prop where
  | zero : Unsigned .decimal 0 [0x30]
  | plain {value : Nat} {digits : Bytes} (spells : Spells 10 true value digits)
      (leading : digits.head? ≠ some 0x30) : Unsigned .decimal value digits
  | marked {base : Base} {mark : UInt8} {value : Nat} {digits : Bytes} (known : mark ∈ base.marks)
      (spells : Spells base.radix true value digits) : Unsigned base value (0x30 :: mark :: digits)
  | spaced {base : Base} {mark : UInt8} {value : Nat} {digits : Bytes} (known : mark ∈ base.marks)
      (spells : Spells base.radix true value digits) :
      Unsigned base value (0x30 :: mark :: 0x5F :: digits)

inductive Literal (base : Base) : Int → Bytes → Prop where
  | unsigned {value : Nat} {text : Bytes} (written : Unsigned base value text) :
      Literal base value text
  | positive {value : Nat} {text : Bytes} (written : Unsigned base value text) :
      Literal base value (0x2B :: text)
  | negative {value : Nat} {text : Bytes} (written : Unsigned base value text) :
      Literal base (-value) (0x2D :: text)

/-- A text whose base is chosen, whose digits are read as a number and whose underscores are well
placed, and that begins with no sign. -/
structure Reads (value : Nat) (text : Bytes) : Prop where
  digits : magnitude (baseOf text).1 true 0 (baseOf text).2 = .ok value
  grouped : wellGrouped text = true
  begins : ∃ digit byte rest, Digit digit byte ∧ text = byte :: rest

theorem baseOf_marked {base : Base} {mark : UInt8} (known : mark ∈ base.marks) (next : UInt8)
    (rest : Bytes) : baseOf (0x30 :: mark :: next :: rest) = (base.radix, next :: rest) := by
  cases base with
  | decimal => cases known
  | hexadecimal | octal | binary =>
      simp only [Base.marks, List.mem_cons, List.not_mem_nil, or_false] at known
      rcases known with rfl | rfl <;> rfl

theorem wellGrouped_marked {base : Base} {mark : UInt8} (known : mark ∈ base.marks)
    (rest : Bytes) :
    wellGrouped (0x30 :: mark :: rest) = grouping (base = .hexadecimal) .digit rest := by
  cases base with
  | decimal => cases known
  | hexadecimal | octal | binary =>
      simp only [Base.marks, List.mem_cons, List.not_mem_nil, or_false] at known
      rcases known with rfl | rfl <;> rfl

theorem grouping_radix (base : Base) : base.radix ≤ 10 ∨ decide (base = .hexadecimal) = true := by
  cases base <;> decide

theorem Unsigned.reads {base : Base} {value : Nat} {text : Bytes}
    (written : Unsigned base value text) (fits : value < 0x10000000000000000) :
    Reads value text := by
  cases written with
  | zero => exact ⟨rfl, rfl, 0, 0x30, [], .decimal (by decide), rfl⟩
  | plain spells leading =>
      obtain ⟨digit, byte, rest, first, _, rfl⟩ := spells.head
      have nonzero : byte ≠ 0x30 := fun same => leading (congrArg some same)
      have plain : baseOf (byte :: rest) = (10, byte :: rest) := by
        unfold baseOf
        split
        · rename_i same
          exact absurd (List.cons.inj same).1 nonzero
        · rename_i same
          exact absurd (List.cons.inj same).1 nonzero
        · rfl
      have ungrouped : wellGrouped (byte :: rest) = grouping false .start (byte :: rest) := by
        unfold wellGrouped
        split
        · rename_i same
          exact absurd (List.cons.inj same).1 nonzero
        · rfl
      refine ⟨?_, ?_, digit, byte, rest, first, rfl⟩
      · rw [plain]
        exact spells.magnitude_eq fits
      · rw [ungrouped]
        exact spells.wellPlaced (.inl (Nat.le_refl 10)) .start
  | marked known spells =>
      obtain ⟨_, byte, rest, _, _, rfl⟩ := spells.head
      refine ⟨?_, ?_, 0, 0x30, _, .decimal (by decide), rfl⟩
      · rw [baseOf_marked known]
        exact spells.magnitude_eq fits
      · rw [wellGrouped_marked known]
        exact spells.wellPlaced (grouping_radix base) .digit
  | spaced known spells =>
      refine ⟨?_, ?_, 0, 0x30, _, .decimal (by decide), rfl⟩
      · rw [baseOf_marked known]
        exact spells.magnitude_eq fits
      · rw [wellGrouped_marked known, grouping_underscore]
        exact spells.wellPlaced (grouping_radix base) .underscore

theorem Reads.signed_eq {value : Nat} {text : Bytes} (reads : Reads value text) :
    signed text = (false, text) := by
  obtain ⟨digit, byte, rest, first, rfl⟩ := reads.begins
  exact first.signed_eq rest

/-- A literal behind a sign is read as its number with that sign. -/
theorem Reads.readLiteral_eq {value : Nat} {text whole : Bytes} {negative : Bool}
    (reads : Reads value text) (split : signed whole = (negative, text)) :
    readLiteral whole = withSign negative value := by
  have filled : text.isEmpty = false := by
    obtain ⟨_, _, _, _, rfl⟩ := reads.begins
    rfl
  simp only [readLiteral, split, filled, reads.digits, reads.grouped, bind, Except.bind,
    Bool.not_true, Bool.and_false, Bool.false_eq_true, ↓reduceIte]

theorem ofInt_eq_ok_iff {integer : Int} (low : -0x8000000000000000 ≤ integer)
    (high : integer < 0x8000000000000000) {number : Int64} :
    (.ok (Int64.ofInt integer) : Except Fault Int64) = .ok number ↔ number.toInt = integer := by
  rw [Except.ok.injEq, ← Int64.toInt_inj, Int64.toInt_ofInt_of_le low high, eq_comm]

theorem withSign_false_iff {value : Nat} {number : Int64} :
    withSign false value = .ok number ↔ number.toInt = value := by
  have below := number.toInt_lt
  rw [withSign, if_neg Bool.false_ne_true]
  split
  · exact ofInt_eq_ok_iff (by omega) (by omega)
  · constructor
    · intro refused
      cases refused
    · omega

/-- With a minus sign the range goes one further. -/
theorem withSign_true_iff {value : Nat} {number : Int64} :
    withSign true value = .ok number ↔ number.toInt = -value := by
  have above := number.le_toInt
  rw [withSign, if_pos rfl]
  split
  · exact ofInt_eq_ok_iff (by omega) (by omega)
  · constructor
    · intro refused
      cases refused
    · omega

/-- A literal of a 64-bit number is read as that number. -/
theorem Literal.readLiteral_eq {base : Base} {number : Int64} {text : Bytes}
    (literal : Literal base number.toInt text) : readLiteral text = .ok number := by
  have below := number.toInt_lt
  have above := number.le_toInt
  generalize same : number.toInt = integer at literal below above
  cases literal with
  | unsigned written =>
      have reads := written.reads (by omega)
      exact (reads.readLiteral_eq reads.signed_eq).trans (withSign_false_iff.mpr same)
  | positive written =>
      have reads := written.reads (by omega)
      exact (reads.readLiteral_eq rfl).trans (withSign_false_iff.mpr same)
  | negative written =>
      have reads := written.reads (by omega)
      exact (reads.readLiteral_eq rfl).trans (withSign_true_iff.mpr same)

end Literals

section Existence

theorem exists_digit {digit : Nat} (small : digit < 16) : ∃ byte, Digit digit byte := by
  by_cases decimal : digit < 10
  · exact ⟨_, .decimal decimal⟩
  · obtain ⟨letter, rfl⟩ := Nat.exists_eq_add_of_le (Nat.le_of_not_lt decimal)
    exact ⟨_, .lower (by omega)⟩

theorem exists_spells {base : Nat} (two : 2 ≤ base) (sixteen : base ≤ 16) (value : Nat) :
    ∃ text, Spells base true value text := by
  induction value using Nat.strongRecOn with
  | ind value ih =>
      have proper : value % base < base := Nat.mod_lt value (by omega)
      obtain ⟨byte, written⟩ := exists_digit (Nat.lt_of_lt_of_le proper sixteen)
      by_cases small : value < base
      · rw [Nat.mod_eq_of_lt small] at written
        exact ⟨_, .digit written small⟩
      · obtain ⟨front, spells⟩ := ih (value / base) (Nat.div_lt_self (by omega) two)
        have last := Spells.more spells written proper
        rw [Nat.div_add_mod'] at last
        exact ⟨_, last⟩

end Existence

end Brainfuck.Integer
