import Brainfuck.Proofs.Printing

/-!
The code of the first character of a line. A line that is not empty begins with the encoding of a
character, or it is malformed in one of a few ways, never both. In the first case the character
counts, whatever stands behind it, and in the second the first byte.
-/

namespace Brainfuck

namespace Utf8

def isContinuation (byte : UInt8) : Bool :=
  0x80 ≤ byte.toNat && byte.toNat < 0xC0

/-- How many continuation bytes a byte calls for. -/
def announced (lead : UInt8) : Nat :=
  if lead.toNat < 0xC0 then 0
  else if lead.toNat < 0xE0 then 1
  else if lead.toNat < 0xF0 then 2
  else if lead.toNat < 0xF8 then 3
  else 0

/-- A lead byte and the continuation bytes that it calls for, with the code that they hold and the
least code that needs so many of them. -/
inductive Sequence : Nat → Nat → Bytes → Prop where
  | two {high : Nat} (fits : high < 0x20) (low : Nat) :
      Sequence 0x80 (high * 64 + low % 64)
        [UInt8.ofNat (high + 0xC0), UInt8.ofNat (low % 64 + 0x80)]
  | three {high : Nat} (fits : high < 0x10) (middle low : Nat) :
      Sequence 0x800 (high * 4096 + middle % 64 * 64 + low % 64)
        [UInt8.ofNat (high + 0xE0), UInt8.ofNat (middle % 64 + 0x80),
          UInt8.ofNat (low % 64 + 0x80)]
  | four {high : Nat} (fits : high < 8) (upper middle low : Nat) :
      Sequence 0x10000 (high * 262144 + upper % 64 * 4096 + middle % 64 * 64 + low % 64)
        [UInt8.ofNat (high + 0xF0), UInt8.ofNat (upper % 64 + 0x80),
          UInt8.ofNat (middle % 64 + 0x80), UInt8.ofNat (low % 64 + 0x80)]

/-- The ways in which a text can fail to begin with a character. -/
inductive Malformed : Bytes → Prop where
  | stray {byte : UInt8} {rest : Bytes} (continues : isContinuation byte = true) :
      Malformed (byte :: rest)
  | noLead {byte : UInt8} {rest : Bytes} (beyond : 0xF8 ≤ byte.toNat) : Malformed (byte :: rest)
  | truncated {lead : UInt8} {rest : Bytes}
      (few : (rest.takeWhile isContinuation).length < announced lead) : Malformed (lead :: rest)
  | overlong {least code : Nat} {bytes : Bytes} (sequence : Sequence least code bytes)
      (short : code < least) (rest : Bytes) : Malformed (bytes ++ rest)
  | surrogate {least code : Nat} {bytes : Bytes} (sequence : Sequence least code bytes)
      (above : 0xD800 ≤ code) (below : code < 0xE000) (rest : Bytes) : Malformed (bytes ++ rest)
  | outOfRange {least code : Nat} {bytes : Bytes} (sequence : Sequence least code bytes)
      (beyond : 0x110000 ≤ code) (rest : Bytes) : Malformed (bytes ++ rest)

section Refused

variable {least code : Nat} {bytes : Bytes}

theorem Sequence.decode?_append (sequence : Sequence least code bytes) (rest : Bytes) :
    decode? (bytes ++ rest) = (scalar? least code).map fun char => (char, rest) := by
  cases sequence with
  | two fits low => exact decode?_two fits low rest
  | three fits middle low => exact decode?_three fits middle low rest
  | four fits upper middle low => exact decode?_four fits upper middle low rest

theorem Sequence.decode?_eq_none (sequence : Sequence least code bytes)
    (refused : ¬ (least ≤ code ∧ code.isValidChar)) (rest : Bytes) :
    decode? (bytes ++ rest) = none := by
  rw [sequence.decode?_append, scalar?, if_neg refused, Option.map_none]

theorem payload?_eq_none {byte : UInt8} (other : isContinuation byte = false) :
    payload? byte = none := by
  apply if_neg
  simpa [isContinuation] using other

-- The byte is missing itself, or it is one of those that are called for.
theorem takeWhile_few {byte : UInt8} {rest : Bytes} {count : Nat}
    (few : ((byte :: rest).takeWhile isContinuation).length < count + 1) :
    payload? byte = none ∨ (rest.takeWhile isContinuation).length < count := by
  cases continues : isContinuation byte with
  | false => exact .inl (payload?_eq_none continues)
  | true =>
      rw [List.takeWhile_cons_of_pos continues, List.length_cons] at few
      exact .inr (Nat.lt_of_succ_lt_succ few)

theorem decode?_truncated {lead : UInt8} {rest : Bytes}
    (few : (rest.takeWhile isContinuation).length < announced lead) :
    decode? (lead :: rest) = none := by
  unfold announced at few
  unfold decode?
  split at few
  · cases few
  rename_i above
  simp only [show ¬ lead.toNat < 0x80 by omega, above, ↓reduceIte]
  split at few
  · rename_i two
    simp only [two, ↓reduceIte]
    match rest, few with
    | [], _ => rfl
    | b :: rest, few =>
        rcases takeWhile_few few with missing | few
        · simp [missing]
        · cases few
  rename_i more
  simp only [more, ↓reduceIte]
  split at few
  · rename_i three
    simp only [three, ↓reduceIte]
    match rest, few with
    | [], _ | [_], _ => rfl
    | b :: c :: rest, few =>
        rcases takeWhile_few few with missing | few
        · simp [missing]
        rcases takeWhile_few few with missing | few
        · cases payload? b <;> simp [missing]
        · cases few
  rename_i more
  simp only [more, ↓reduceIte]
  split at few
  · rename_i four
    simp only [four, ↓reduceIte]
    match rest, few with
    | [], _ | [_], _ | [_, _], _ => rfl
    | b :: c :: d :: rest, few =>
        rcases takeWhile_few few with missing | few
        · simp [missing]
        rcases takeWhile_few few with missing | few
        · cases payload? b <;> simp [missing]
        rcases takeWhile_few few with missing | few
        · cases payload? b <;> cases payload? c <;> simp [missing]
        · cases few
  · cases few

theorem Malformed.decode?_eq_none {text : Bytes} (malformed : Malformed text) :
    decode? text = none := by
  cases malformed with
  | @stray byte rest continues =>
      simp only [isContinuation, Bool.and_eq_true, decide_eq_true_eq] at continues
      simp only [decode?]
      rw [if_neg (by omega), if_pos continues.2]
  | @noLead byte rest beyond =>
      simp only [decode?]
      rw [if_neg (by omega), if_neg (by omega), if_neg (by omega), if_neg (by omega),
        if_neg (by omega)]
  | truncated few => exact decode?_truncated few
  | overlong sequence short rest =>
      exact sequence.decode?_eq_none (fun whole => absurd whole.1 (by omega)) rest
  | surrogate sequence above below rest =>
      apply sequence.decode?_eq_none
      rintro ⟨_, valid⟩
      simp only [Nat.isValidChar] at valid
      omega
  | outOfRange sequence beyond rest =>
      apply sequence.decode?_eq_none
      rintro ⟨_, valid⟩
      simp only [Nat.isValidChar] at valid
      omega

end Refused

section Accepted

/-- A sequence that is as short as can be for its code, a scalar value, is its encoding. -/
theorem Sequence.eq_encoded {least code : Nat} {bytes : Bytes}
    (sequence : Sequence least code bytes) (long : least ≤ code) (valid : code.isValidChar) :
    String.utf8EncodeChar (Char.ofNat code) = bytes := by
  have value : (Char.ofNat code).val.toNat = code := toNat_scalar valid
  cases sequence with
  | @two high fits low =>
      have first : (high * 64 + low % 64) / 64 % 32 = high := by omega
      have second : (high * 64 + low % 64) % 64 = low % 64 := by omega
      simp only [String.utf8EncodeChar, value]
      rw [if_neg (by omega), if_pos (by omega), first, second]
  | @three high fits middle low =>
      have first : (high * 4096 + middle % 64 * 64 + low % 64) / 4096 % 16 = high := by omega
      have second : (high * 4096 + middle % 64 * 64 + low % 64) / 64 % 64 = middle % 64 := by omega
      have third : (high * 4096 + middle % 64 * 64 + low % 64) % 64 = low % 64 := by omega
      simp only [String.utf8EncodeChar, value]
      rw [if_neg (by omega), if_neg (by omega), if_pos (by omega), first, second, third]
  | @four high fits upper middle low =>
      have first : (high * 262144 + upper % 64 * 4096 + middle % 64 * 64 + low % 64) / 262144 % 8 =
          high := by omega
      have second : (high * 262144 + upper % 64 * 4096 + middle % 64 * 64 + low % 64) / 4096 % 64 =
          upper % 64 := by omega
      have third : (high * 262144 + upper % 64 * 4096 + middle % 64 * 64 + low % 64) / 64 % 64 =
          middle % 64 := by omega
      have fourth : (high * 262144 + upper % 64 * 4096 + middle % 64 * 64 + low % 64) % 64 =
          low % 64 := by omega
      simp only [String.utf8EncodeChar, value]
      rw [if_neg (by omega), if_neg (by omega), if_neg (by omega), first, second, third, fourth]

theorem exists_marks {rest : Bytes} {count : Nat}
    (enough : count ≤ (rest.takeWhile isContinuation).length) :
    ∃ (payloads : List Nat) (later : Bytes), payloads.length = count ∧
      rest = payloads.map (fun bits => UInt8.ofNat (bits % 64 + 0x80)) ++ later := by
  induction count generalizing rest with
  | zero => exact ⟨[], rest, rfl, rfl⟩
  | succ count ih =>
      cases rest with
      | nil => simp at enough
      | cons byte rest =>
          cases continues : isContinuation byte with
          | false => simp [continues] at enough
          | true =>
              rw [List.takeWhile_cons_of_pos continues, List.length_cons] at enough
              obtain ⟨payloads, later, length, rfl⟩ := ih (Nat.le_of_succ_le_succ enough)
              refine ⟨(byte.toNat - 0x80) :: payloads, later, by rw [List.length_cons, length], ?_⟩
              simp only [isContinuation, Bool.and_eq_true, decide_eq_true_eq] at continues
              rw [List.map_cons, List.cons_append, List.cons.injEq, ← UInt8.toNat_inj,
                toNat_marked (by omega)]
              exact ⟨by omega, rfl⟩

/-- A lead byte that gets what it calls for begins a sequence. -/
theorem exists_sequence {lead : UInt8} {rest : Bytes} (above : 0xC0 ≤ lead.toNat)
    (below : lead.toNat < 0xF8)
    (enough : announced lead ≤ (rest.takeWhile isContinuation).length) :
    ∃ least code bytes later, Sequence least code bytes ∧ lead :: rest = bytes ++ later := by
  obtain ⟨payloads, later, length, rfl⟩ := exists_marks enough
  have mark : ∀ base, base ≤ lead.toNat → lead = UInt8.ofNat (lead.toNat - base + base) := by
    intro base reached
    rw [Nat.sub_add_cancel reached, UInt8.ofNat_toNat]
  unfold announced at length
  rw [if_neg (by omega)] at length
  by_cases two : lead.toNat < 0xE0
  · rw [if_pos two] at length
    match payloads, length with
    | [low], _ =>
        refine ⟨_, _, _, later, .two (show lead.toNat - 0xC0 < 0x20 by omega) low, ?_⟩
        rw [← mark 0xC0 above]
        rfl
  rw [if_neg two] at length
  by_cases three : lead.toNat < 0xF0
  · rw [if_pos three] at length
    match payloads, length with
    | [middle, low], _ =>
        refine ⟨_, _, _, later, .three (show lead.toNat - 0xE0 < 0x10 by omega) middle low, ?_⟩
        rw [← mark 0xE0 (by omega)]
        rfl
  · rw [if_neg three, if_pos below] at length
    match payloads, length with
    | [upper, middle, low], _ =>
        refine ⟨_, _, _, later, .four (show lead.toNat - 0xF0 < 8 by omega) upper middle low, ?_⟩
        rw [← mark 0xF0 (by omega)]
        rfl

theorem Sequence.encoded_or_malformed {least code : Nat} {bytes : Bytes}
    (sequence : Sequence least code bytes) (rest : Bytes) :
    (∃ char, String.utf8EncodeChar char = bytes) ∨ Malformed (bytes ++ rest) := by
  by_cases short : code < least
  · exact .inr (.overlong sequence short rest)
  by_cases beyond : 0x110000 ≤ code
  · exact .inr (.outOfRange sequence beyond rest)
  by_cases reserved : 0xD800 ≤ code ∧ code < 0xE000
  · exact .inr (.surrogate sequence reserved.1 reserved.2 rest)
  · have valid : code.isValidChar := by
      simp only [Nat.isValidChar]
      omega
    exact .inl ⟨Char.ofNat code, sequence.eq_encoded (by omega) valid⟩

theorem encoded_or_malformed (byte : UInt8) (rest : Bytes) :
    (∃ char, String.utf8EncodeChar char <+: byte :: rest) ∨ Malformed (byte :: rest) := by
  by_cases ascii : byte.toNat < 0x80
  · have value : (Char.ofNat byte.toNat).val.toNat = byte.toNat := toNat_scalar (.inl (by omega))
    refine .inl ⟨Char.ofNat byte.toNat, rest, ?_⟩
    simp only [String.utf8EncodeChar, value]
    rw [if_pos (by omega), UInt8.ofNat_toNat]
    rfl
  by_cases continues : byte.toNat < 0xC0
  · refine .inr (.stray ?_)
    rw [isContinuation, Bool.and_eq_true, decide_eq_true_eq, decide_eq_true_eq]
    omega
  by_cases beyond : 0xF8 ≤ byte.toNat
  · exact .inr (.noLead beyond)
  by_cases few : (rest.takeWhile isContinuation).length < announced byte
  · exact .inr (.truncated few)
  · obtain ⟨least, code, bytes, later, sequence, split⟩ :=
      exists_sequence (by omega) (by omega) (Nat.le_of_not_lt few)
    rw [split]
    rcases sequence.encoded_or_malformed later with ⟨char, rfl⟩ | malformed
    · exact .inl ⟨char, List.prefix_append _ later⟩
    · exact .inr malformed

end Accepted

/-- Being malformed is the same as beginning with no character. -/
theorem malformed_iff (byte : UInt8) (rest : Bytes) :
    Malformed (byte :: rest) ↔ ∀ char, ¬ String.utf8EncodeChar char <+: byte :: rest := by
  constructor
  · rintro malformed char ⟨later, whole⟩
    have refused := malformed.decode?_eq_none
    rw [← whole, decode?_encoded] at refused
    cases refused
  · intro nothing
    rcases encoded_or_malformed byte rest with ⟨char, begins⟩ | malformed
    · exact absurd begins (nothing char)
    · exact malformed

end Utf8

theorem firstCharCode_encoded (char : Char) (rest : Bytes) :
    firstCharCode (String.utf8EncodeChar char ++ rest) = UInt8.ofNat char.toNat := by
  have read := Utf8.decode?_encoded char rest
  unfold firstCharCode
  split
  · rename_i nothing
    rw [nothing] at read
    cases read
  · rw [read]

theorem firstCharCode_malformed {byte : UInt8} {rest : Bytes}
    (malformed : Utf8.Malformed (byte :: rest)) : firstCharCode (byte :: rest) = byte := by
  simp only [firstCharCode, malformed.decode?_eq_none]

/-- The first character of a line is taken modulo 256, whatever follows. Where a line begins with
none, and the ways in which that happens are listed, its first byte is taken. So the first of the
cells that were printed is read back from their text with anything behind it. -/
theorem first_character_is_read :
    (∀ (char : Char) (rest : Bytes),
      (firstCharCode (String.utf8EncodeChar char ++ rest)).toNat = char.toNat % 256) ∧
    (∀ (byte : UInt8) (rest : Bytes),
      (∀ char, ¬ String.utf8EncodeChar char <+: byte :: rest) →
        firstCharCode (byte :: rest) = byte) ∧
    (∀ (byte : UInt8) (rest : Bytes),
      Utf8.Malformed (byte :: rest) ↔ ∀ char, ¬ String.utf8EncodeChar char <+: byte :: rest) ∧
    ∀ (machine : Machine) (cell : UInt8) (more : List UInt8) (rest : Bytes),
      machine.printed.toList = cell :: more → firstCharCode (machine.output ++ rest) = cell := by
  refine ⟨?_, ?_, Utf8.malformed_iff, ?_⟩
  · intro char rest
    rw [firstCharCode_encoded, UInt8.toNat_ofNat']
  · intro byte rest nothing
    exact firstCharCode_malformed ((Utf8.malformed_iff byte rest).mpr nothing)
  · intro machine cell more rest printed
    rw [Machine.output, printed, List.flatMap_cons, List.append_assoc, firstCharCode_encoded,
      Machine.toNat_character, UInt8.ofNat_toNat]

/-- U+FFFD is a character like others, a surrogate is none, and a printed cell comes back in front
of a byte that would continue it. -/
theorem replacement_and_surrogate_are_told_apart :
    (firstCharCode (String.utf8EncodeChar '\ufffd' ++ [0x41])).toNat = 0xFD ∧
      Utf8.Malformed [0xED, 0xA0, 0x80, 0x41] ∧ firstCharCode [0xED, 0xA0, 0x80, 0x41] = 0xED ∧
      firstCharCode ({ Machine.start .single none with printed := #[0xE9, 0x41] }.output ++
        [0x80]) = 0xE9 := by
  obtain ⟨decoded, taken, malformed, printed⟩ := first_character_is_read
  have surrogate : Utf8.Malformed [0xED, 0xA0, 0x80, 0x41] :=
    .surrogate (.three (by decide : 13 < 0x10) 32 0) (by decide) (by decide) [0x41]
  refine ⟨decoded '\ufffd' [0x41], surrogate, ?_, ?_⟩
  · exact taken 0xED _ ((malformed 0xED _).mp surrogate)
  · exact printed _ 0xE9 [0x41] [0x80] rfl

end Brainfuck
