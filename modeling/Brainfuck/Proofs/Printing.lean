import Brainfuck.Proofs.Observation

/-!
Printed text. A run that succeeds returns the printed cells as characters, and reading that text as
UTF-8 gives the cells back, in order and one for each `.` that was executed. The cells are a trace
that each command extends or leaves alone. A run that fails returns no text, whatever its trace.
-/

namespace Brainfuck

namespace Utf8

section Characters

theorem toNat_marked {bits mark : Nat} (fits : bits + mark < 256) :
    (UInt8.ofNat (bits + mark)).toNat = bits + mark := by
  rw [UInt8.toNat_ofNat']
  exact Nat.mod_eq_of_lt fits

theorem bind_marked {Result : Type} (bits : Nat) (next : Nat → Option Result) :
    (payload? (UInt8.ofNat (bits % 64 + 0x80))).bind next = next (bits % 64) := by
  rw [payload?, toNat_marked (by omega), if_pos (by omega), Nat.add_sub_cancel, Option.bind_some]

theorem toNat_scalar {code : Nat} (valid : code.isValidChar) : (Char.ofNat code).toNat = code := by
  rw [Char.ofNat, dif_pos valid]
  rfl

theorem scalar?_code {least : Nat} (char : Char) (long : least ≤ char.toNat) :
    scalar? least char.toNat = some char := by
  rw [scalar?, if_pos ⟨long, char.valid⟩, Char.ofNat_toNat]

variable {high : Nat}

theorem decode?_one (short : high < 0x80) (rest : Bytes) :
    decode? (UInt8.ofNat high :: rest) = some (Char.ofNat high, rest) := by
  have lead : (UInt8.ofNat high).toNat = high := by
    rw [UInt8.toNat_ofNat']
    omega
  unfold decode?
  simp only [lead, short, ↓reduceIte]

theorem decode?_two (fits : high < 0x20) (low : Nat) (rest : Bytes) :
    decode? (UInt8.ofNat (high + 0xC0) :: UInt8.ofNat (low % 64 + 0x80) :: rest) =
      (scalar? 0x80 (high * 64 + low % 64)).map fun char => (char, rest) := by
  simp only [decode?, toNat_marked (by omega : high + 0xC0 < 256)]
  rw [if_neg (by omega), if_neg (by omega), if_pos (by omega)]
  simp only [Option.bind_eq_bind, bind_marked, Nat.add_sub_cancel]
  exact Option.map_eq_bind.symm

theorem decode?_three (fits : high < 0x10) (middle low : Nat) (rest : Bytes) :
    decode? (UInt8.ofNat (high + 0xE0) :: UInt8.ofNat (middle % 64 + 0x80) ::
        UInt8.ofNat (low % 64 + 0x80) :: rest) =
      (scalar? 0x800 (high * 4096 + middle % 64 * 64 + low % 64)).map fun char => (char, rest) := by
  simp only [decode?, toNat_marked (by omega : high + 0xE0 < 256)]
  rw [if_neg (by omega), if_neg (by omega), if_neg (by omega), if_pos (by omega)]
  simp only [Option.bind_eq_bind, bind_marked, Nat.add_sub_cancel]
  exact Option.map_eq_bind.symm

theorem decode?_four (fits : high < 8) (upper middle low : Nat) (rest : Bytes) :
    decode? (UInt8.ofNat (high + 0xF0) :: UInt8.ofNat (upper % 64 + 0x80) ::
        UInt8.ofNat (middle % 64 + 0x80) :: UInt8.ofNat (low % 64 + 0x80) :: rest) =
      (scalar? 0x10000 (high * 262144 + upper % 64 * 4096 + middle % 64 * 64 + low % 64)).map
        fun char => (char, rest) := by
  simp only [decode?, toNat_marked (by omega : high + 0xF0 < 256)]
  rw [if_neg (by omega), if_neg (by omega), if_neg (by omega), if_neg (by omega),
    if_pos (by omega)]
  simp only [Option.bind_eq_bind, bind_marked, Nat.add_sub_cancel]
  exact Option.map_eq_bind.symm

/-- The shortest encoding of a character is read as that character, whatever follows. -/
theorem decode?_encoded (char : Char) (rest : Bytes) :
    decode? (String.utf8EncodeChar char ++ rest) = some (char, rest) := by
  have code : char.val.toNat = char.toNat := rfl
  simp only [String.utf8EncodeChar, code]
  split
  · rename_i one
    exact (decode?_one (by omega) rest).trans (by rw [Char.ofNat_toNat])
  split
  · rename_i one two
    have whole : char.toNat / 64 % 32 * 64 + char.toNat % 64 = char.toNat := by omega
    refine (decode?_two (Nat.mod_lt _ (by decide)) _ rest).trans ?_
    rw [whole, scalar?_code char (by omega), Option.map_some]
  split
  · rename_i one two three
    have whole : char.toNat / 4096 % 16 * 4096 + char.toNat / 64 % 64 * 64 + char.toNat % 64 =
        char.toNat := by omega
    refine (decode?_three (Nat.mod_lt _ (by decide)) _ _ rest).trans ?_
    rw [whole, scalar?_code char (by omega), Option.map_some]
  · rename_i one two three
    have range : char.toNat < 0x110000 := by
      have := char.valid
      change char.toNat.isValidChar at this
      omega
    have whole : char.toNat / 262144 % 8 * 262144 + char.toNat / 4096 % 64 * 4096 +
        char.toNat / 64 % 64 * 64 + char.toNat % 64 = char.toNat := by omega
    refine (decode?_four (Nat.mod_lt _ (by decide)) _ _ _ rest).trans ?_
    rw [whole, scalar?_code char (by omega), Option.map_some]

theorem pieces_of_decoded {text rest : Bytes} {char : Char}
    (read : decode? text = some (char, rest)) : pieces text = .char char :: pieces rest := by
  cases text with
  | nil => cases read
  | cons byte later =>
      rw [pieces]
      split
      · rename_i other behind found
        cases read.symm.trans found
        rfl
      · rename_i found
        cases read.symm.trans found

/-- Characters are read back from their encodings one after another. -/
theorem pieces_encoded (chars : List Char) :
    pieces (chars.flatMap String.utf8EncodeChar) = chars.map .char := by
  induction chars with
  | nil => rw [List.flatMap_nil, pieces, List.map_nil]
  | cons char rest ih =>
      rw [List.flatMap_cons, pieces_of_decoded (decode?_encoded char _), ih, List.map_cons]

end Characters

/-- The codes of the characters of a text, provided that all of it is characters. -/
def codes? (text : Bytes) : Option (List Nat) :=
  (pieces text).mapM fun piece =>
    match piece with
    | .char value => some value.toNat
    | .stray _ => none

theorem codes?_encoded (chars : List Char) :
    codes? (chars.flatMap String.utf8EncodeChar) = some (chars.map Char.toNat) := by
  rw [codes?, pieces_encoded]
  induction chars with
  | nil => rfl
  | cons char rest ih => simp [ih]

theorem isValid_encoded (chars : List Char) :
    isValid (chars.flatMap String.utf8EncodeChar) = true := by
  rw [isValid, pieces_encoded]
  simp

end Utf8

namespace Machine

/-- Only `.` extends the trace of printed cells, by the cell under the cursor. -/
theorem execute_printed (limit : Int64) (command : Command) (machine : Machine) :
    (machine.execute limit command).machine.printed =
      if command = .output then machine.printed.push machine.tape.get else machine.printed := by
  cases command with
  | increment | decrement | left | right | output | loopStart | ignore => rfl
  | input =>
      obtain ⟨tape, pointer, _, same⟩ := readLine_frame machine
      rw [execute, same]
      rfl
  | loopEnd =>
      obtain ⟨loops, pointer, same⟩ := closeLoop_frame limit machine
      rw [execute, same]
      rfl

section Traces

variable {commands : List Command} {limit : Int64} {watch : Watch}

/-- A run leaves behind the cells that it was given and those of the `.` that it has executed. -/
theorem run_printed {machine final : Machine} {halt : Halt} {fuel : Nat}
    (halted : machine.run commands.toArray limit watch fuel = some (final, halt)) :
    final.printed.toList = machine.printed.toList ++
      (executions .output commands limit watch fuel machine).map fun passed => passed.tape.get := by
  induction fuel generalizing machine watch with
  | zero => cases halted
  | succ fuel ih =>
      rcases moves_or_ends commands limit watch machine with
        ⟨command, later, moved⟩ | ⟨last, ending, ended⟩
      · rw [run_of_moves moved] at halted
        have printed := execute_printed limit command machine
        rw [moved.executed] at printed
        change later.printed = _ at printed
        rw [ih halted, printed, executions_of_moves moved]
        by_cases prints : command = .output
        · simp [prints]
        · simp [prints]
      · rw [run_of_ends ended] at halted
        cases halted
        cases ended with
        | complete outside => simp [executions, visited_of_complete outside]
        | interrupted command cause found raised => simp [executions, visited_of_raised raised]
        | failed _ command error found unwatched executed =>
            -- The command that fails is no `.`, since those never do.
            have printed := execute_printed limit command machine
            rw [executed] at printed
            change final.printed = _ at printed
            have other : command ≠ .output := by
              rintro rfl
              cases executed
            rw [printed, executions_of_failed found unwatched executed]
            simp [other]

end Traces

/-- The code of the character that a cell is printed as is the cell. -/
theorem toNat_character (cell : UInt8) : (Char.ofNat cell.toNat).toNat = cell.toNat := by
  have range := cell.toNat_lt
  exact Utf8.toNat_scalar (.inl (by omega))

theorem output_eq (machine : Machine) :
    machine.output = (machine.printed.toList.map fun cell => Char.ofNat cell.toNat).flatMap
      String.utf8EncodeChar := by
  rw [output, List.flatMap_map]

theorem codes?_output (machine : Machine) :
    Utf8.codes? machine.output = some (machine.printed.toList.map UInt8.toNat) := by
  rw [output_eq, Utf8.codes?_encoded, List.map_map]
  congr 2
  funext cell
  exact toNat_character cell

end Machine

namespace Interpreter

/-- A run that succeeds returns valid UTF-8, and its characters are the cells under the cursor at
the `.` that were executed, in order. A run that fails returns the empty text, whatever cells it
has printed. -/
theorem output_decodes_to_printed_cells {interpreter final : Interpreter} {fuel : Nat}
    {watch : Watch} {report : Report} (ran : interpreter.run fuel watch = some (report, final)) :
    let cells := (interpreter.executions .output fuel watch).map fun passed => passed.tape.get
    (report.result.error = none →
      Utf8.isValid report.result.text = true ∧
        Utf8.codes? report.result.text = some (cells.map UInt8.toNat)) ∧
    (report.result.error ≠ none → report.result.text = []) ∧
    final.machine.printed.toList = cells := by
  intro cells
  obtain ⟨machine, halt, halted, rfl, rfl⟩ := run_eq_some_iff.mp ran
  have printed : machine.printed.toList = cells := Machine.run_printed halted
  cases halt with
  | failed | unclosed | interrupted => exact ⟨nofun, fun _ => rfl, printed⟩
  | finished =>
      refine ⟨fun _ => ⟨?_, ?_⟩, fun failed => absurd rfl failed, printed⟩
      · change Utf8.isValid machine.output = true
        rw [machine.output_eq]
        exact Utf8.isValid_encoded _
      · rw [← printed]
        exact machine.codes?_output

def accents : LineSource :=
  .listed [utf8 "\u00e9", utf8 "A", utf8 "\u00ff"]

/-- Prints what it reads, up to an empty line. -/
def repeater : Interpreter :=
  ⟨utf8 ",[.,]", Limits.unbounded, .start .single (some accents)⟩

/-- Prints two lines and then closes a loop that is not open. -/
def faultyRepeater : Interpreter :=
  repeater.withProgram (utf8 ",.,.]")

theorem repeated_codes_are_read_back :
    (repeater.run 30 .never).map (fun ran => ran.1.result) =
        some ⟨[0xC3, 0xA9, 0x41, 0xC3, 0xBF], none⟩ ∧
      Utf8.codes? [0xC3, 0xA9, 0x41, 0xC3, 0xBF] = some [233, 65, 255] ∧
      ∃ report final, faultyRepeater.run 30 .never = some (report, final) ∧
        report.result.text = [] ∧ final.machine.printed.toList = [233, 65] := by
  have succeeds : (repeater.run 30 .never).map (fun ran => ran.1.result) =
      some ⟨[0xC3, 0xA9, 0x41, 0xC3, 0xBF], none⟩ := by decide +kernel
  have fails : (faultyRepeater.run 30 .never).map (fun ran => ran.1.result.error) =
      some (some (.fault (.unmatchedClose 4))) := by decide +kernel
  obtain ⟨⟨report, final⟩, ran, text⟩ := Option.map_eq_some_iff.mp succeeds
  obtain ⟨⟨faulty, last⟩, failed, error⟩ := Option.map_eq_some_iff.mp fails
  refine ⟨succeeds, ?_, faulty, last, failed, ?_⟩
  · have decoded := ((output_decodes_to_printed_cells ran).1 (congrArg Result.error text)).2
    rw [text] at decoded
    exact decoded.trans (by decide +kernel)
  · obtain ⟨_, empty, printed⟩ := output_decodes_to_printed_cells failed
    have faulted : faulty.result.error ≠ none := fun calm => by cases calm.symm.trans error
    exact ⟨empty faulted, printed.trans (by decide +kernel)⟩

end Interpreter

end Brainfuck
