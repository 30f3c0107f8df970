import Brainfuck.Proofs.Literals

/-!
Written integers are read back. A written number has digits only and begins with a zero only if it
is zero, so with its sign it is a decimal literal. Every number has literals of the other bases too.
As a plain decimal nothing is read but a sign and digits, where zeros in front count for nothing.
-/

namespace Brainfuck.Integer

theorem natDigits_of_lt {value : Nat} (small : value < 10) :
    natDigits value = [digitByte value] := by
  rw [natDigits, if_pos small]
  rfl

theorem natDigits_of_ge {value : Nat} (large : 10 ≤ value) :
    natDigits value = natDigits (value / 10) ++ [digitByte (value % 10)] := by
  rw [natDigits, if_neg (by omega)]
  rfl

theorem natDigits_spells (grouped : Bool) (value : Nat) :
    Spells 10 grouped value (natDigits value) := by
  induction value using Nat.strongRecOn with
  | ind value ih =>
      by_cases small : value < 10
      · rw [natDigits_of_lt small]
        exact .digit (.decimal small) small
      · have proper : value % 10 < 10 := Nat.mod_lt value (by decide)
        have spells := Spells.more (ih (value / 10) (by omega)) (.decimal proper) proper
        rw [natDigits_of_ge (by omega)]
        rwa [Nat.div_add_mod'] at spells

/-- The first digit is zero only in the number that is zero. -/
theorem natDigits_head (value : Nat) :
    ∃ digit rest, natDigits value = digitByte digit :: rest ∧ digit < 10 ∧
      (digit = 0 → value = 0) := by
  induction value using Nat.strongRecOn with
  | ind value ih =>
      by_cases small : value < 10
      · exact ⟨value, [], natDigits_of_lt small, small, id⟩
      · obtain ⟨digit, rest, same, decimal, leading⟩ := ih (value / 10) (by omega)
        refine ⟨digit, rest ++ [digitByte (value % 10)], ?_, decimal, ?_⟩
        · rw [natDigits_of_ge (by omega), same]
          rfl
        · intro zero
          have := leading zero
          omega

theorem natDigits_unsigned (value : Nat) : Unsigned .decimal value (natDigits value) := by
  by_cases zero : value = 0
  · subst zero
    rw [natDigits_of_lt (by decide)]
    exact .zero
  · apply Unsigned.plain (natDigits_spells true value)
    obtain ⟨digit, rest, same, decimal, leading⟩ := natDigits_head value
    rw [same]
    intro begins
    have code := congrArg UInt8.toNat (Option.some.inj begins)
    rw [digitByte, UInt8.toNat_ofNat'] at code
    change (0x30 + digit) % 256 = 0x30 at code
    exact zero (leading (by omega))

theorem ofInt_literal (number : Int) : Literal .decimal number (ofInt number) := by
  cases number with
  | ofNat value => exact .unsigned (natDigits_unsigned value)
  | negSucc value => exact .negative (natDigits_unsigned (value + 1))

/-- Decimal digits behind a sign are read as their number with that sign. -/
theorem Spells.readDecimal_eq {value : Nat} {text whole : Bytes} {negative : Bool}
    (spells : Spells 10 false value text) (fits : value < 0x10000000000000000)
    (split : signed whole = (negative, text)) : readDecimal whole = withSign negative value := by
  have filled : text.isEmpty = false := by
    obtain ⟨_, _, _, _, _, rfl⟩ := spells.head
    rfl
  simp only [readDecimal, split, filled, spells.magnitude_eq fits, bind, Except.bind,
    Bool.false_eq_true, ↓reduceIte]

/-- An optional sign and digits, with the integer that they stand for. -/
inductive Decimal : Int → Bytes → Prop where
  | unsigned {value : Nat} {digits : Bytes} (spells : Spells 10 false value digits) :
      Decimal value digits
  | positive {value : Nat} {digits : Bytes} (spells : Spells 10 false value digits) :
      Decimal value (0x2B :: digits)
  | negative {value : Nat} {digits : Bytes} (spells : Spells 10 false value digits) :
      Decimal (-value) (0x2D :: digits)

theorem ofInt_decimal (integer : Int) : Decimal integer (ofInt integer) := by
  cases integer with
  | ofNat value => exact .unsigned (natDigits_spells false value)
  | negSucc value => exact .negative (natDigits_spells false (value + 1))

theorem Spells.signed_eq {value : Nat} {text : Bytes} (spells : Spells 10 false value text) :
    signed text = (false, text) := by
  obtain ⟨_, _, rest, first, _, rfl⟩ := spells.head
  exact first.signed_eq rest

theorem Digit.visible {digit : Nat} {byte : UInt8} (written : Digit digit byte) :
    0x20 < byte.toNat ∧ byte.toNat < 0x7F := by
  have ranges := written.toNat_cases
  omega

theorem Spells.visible {value : Nat} {text : Bytes} (spells : Spells 10 false value text) :
    ∀ byte ∈ text, 0x20 < byte.toNat ∧ byte.toNat < 0x7F := by
  induction spells with
  | digit written proper => exact List.forall_mem_singleton.mpr written.visible
  | more spells written proper ih =>
      exact List.forall_mem_append.mpr ⟨ih, List.forall_mem_singleton.mpr written.visible⟩
  | group allowed => cases allowed

theorem Decimal.visible {integer : Int} {text : Bytes} (decimal : Decimal integer text) :
    ∀ byte ∈ text, 0x20 < byte.toNat ∧ byte.toNat < 0x7F := by
  cases decimal with
  | unsigned spells => exact spells.visible
  | positive spells => exact List.forall_mem_cons.mpr ⟨by decide, spells.visible⟩
  | negative spells => exact List.forall_mem_cons.mpr ⟨by decide, spells.visible⟩

theorem Decimal.readDecimal_eq {number : Int64} {text : Bytes}
    (decimal : Decimal number.toInt text) : readDecimal text = .ok number := by
  have below := number.toInt_lt
  have above := number.le_toInt
  generalize same : number.toInt = integer at decimal below above
  cases decimal with
  | unsigned spells =>
      exact (spells.readDecimal_eq (by omega) spells.signed_eq).trans
        (withSign_false_iff.mpr same)
  | positive spells =>
      exact (spells.readDecimal_eq (by omega) rfl).trans (withSign_false_iff.mpr same)
  | negative spells =>
      exact (spells.readDecimal_eq (by omega) rfl).trans (withSign_true_iff.mpr same)

theorem spells_of_readDecimal {number : Int64} {text digits : Bytes} {negative : Bool}
    (split : signed text = (negative, digits)) (read : readDecimal text = .ok number) :
    ∃ value, Spells 10 false value digits ∧ withSign negative value = .ok number := by
  simp only [readDecimal, split, bind, Except.bind] at read
  split at read
  · cases read
  · rename_i filled
    split at read
    · cases read
    · rename_i value found
      refine ⟨value, spells_of_magnitude (by decide) ?_ found, read⟩
      rintro rfl
      exact filled rfl

/-- Decimals of 64-bit numbers are all that is read. -/
theorem readDecimal_eq_ok_iff {number : Int64} {text : Bytes} :
    readDecimal text = .ok number ↔ Decimal number.toInt text := by
  refine ⟨?_, Decimal.readDecimal_eq⟩
  intro read
  cases text with
  | nil => cases read
  | cons byte rest =>
      by_cases minus : byte = 0x2D
      · subst minus
        obtain ⟨value, spells, signed⟩ := spells_of_readDecimal rfl read
        rw [withSign_true_iff.mp signed]
        exact .negative spells
      · by_cases plus : byte = 0x2B
        · subst plus
          obtain ⟨value, spells, signed⟩ := spells_of_readDecimal rfl read
          rw [withSign_false_iff.mp signed]
          exact .positive spells
        · have unsigned : signed (byte :: rest) = (false, byte :: rest) := by
            rw [signed, if_neg minus, if_neg plus]
          obtain ⟨value, spells, signed⟩ := spells_of_readDecimal unsigned read
          rw [withSign_false_iff.mp signed]
          exact .unsigned spells

theorem readDecimal_ofInt (number : Int64) : readDecimal (ofInt number.toInt) = .ok number :=
  (ofInt_decimal number.toInt).readDecimal_eq

theorem exists_unsigned (base : Base) (value : Nat) : ∃ text, Unsigned base value text := by
  cases base with
  | decimal => exact ⟨_, natDigits_unsigned value⟩
  | hexadecimal =>
      obtain ⟨text, spells⟩ := exists_spells (by decide) (Nat.le_refl 16) value
      exact ⟨_, .marked List.mem_cons_self spells⟩
  | octal =>
      obtain ⟨text, spells⟩ := exists_spells (by decide : 2 ≤ 8) (by decide) value
      exact ⟨_, .marked List.mem_cons_self spells⟩
  | binary =>
      obtain ⟨text, spells⟩ := exists_spells (Nat.le_refl 2) (by decide) value
      exact ⟨_, .marked List.mem_cons_self spells⟩

/-- Every integer can be written in every base. -/
theorem exists_literal (base : Base) (number : Int) : ∃ text, Literal base number text := by
  cases number with
  | ofNat value =>
      obtain ⟨text, written⟩ := exists_unsigned base value
      exact ⟨text, .unsigned written⟩
  | negSucc value =>
      obtain ⟨text, written⟩ := exists_unsigned base (value + 1)
      exact ⟨_, .negative written⟩

end Brainfuck.Integer
