import Brainfuck.Command

/-!
Sources, their instructions and their normal forms. The instructions of a source, written one
after the other, are the source without its filler, and whatever instructions are written are
read back. So a source without filler is a normal form: there is one for each list of
instructions, and a source can be cut anywhere and brought to it part by part.
-/

namespace Brainfuck

namespace Command

theorem ofByte_toByte (command : Command) : ofByte command.toByte = command := by
  cases command <;> rfl

theorem toByte_ofByte {byte : UInt8} (kept : ofByte byte ≠ .ignore) :
    (ofByte byte).toByte = byte :=
  ((ofByte_eq_iff kept).mp rfl).symm

/-- Some instruction is written as this byte. -/
def IsInstruction (byte : UInt8) : Prop :=
  ∃ command : Command, command ≠ .ignore ∧ command.text = [byte]

theorem isInstruction_iff {byte : UInt8} : IsInstruction byte ↔ ofByte byte ≠ .ignore := by
  constructor
  · rintro ⟨command, kept, written⟩
    have same : command.toByte = byte := List.singleton_inj.mp written
    rwa [← same, ofByte_toByte]
  · intro kept
    exact ⟨ofByte byte, kept, congrArg (fun byte => [byte]) (toByte_ofByte kept)⟩

end Command

section Parts

theorem preLex_append (first second : Bytes) :
    preLex (first ++ second) = preLex first ++ preLex second :=
  List.filter_append first second

theorem preLex_cons (byte : UInt8) (source : Bytes) :
    preLex (byte :: source) =
      if Command.ofByte byte = .ignore then preLex source else byte :: preLex source := by
  by_cases filler : Command.ofByte byte = .ignore <;> simp [preLex, filler]

theorem commands_append (first second : Bytes) :
    commands (first ++ second) = commands first ++ commands second :=
  List.map_append

theorem lex_append (first second : Bytes) : lex (first ++ second) = lex first ++ lex second := by
  rw [lex, commands_append, List.filter_append]
  rfl

theorem lex_cons (byte : UInt8) (source : Bytes) :
    lex (byte :: source) =
      if Command.ofByte byte = .ignore then lex source
      else Command.ofByte byte :: lex source := by
  by_cases filler : Command.ofByte byte = .ignore <;> simp [lex, commands, filler]

theorem commands_preLex (source : Bytes) : commands (preLex source) = lex source := by
  simp only [commands, preLex, lex, List.filter_map]
  rfl

end Parts

section NormalForms

theorem flatMap_text_lex (source : Bytes) : (lex source).flatMap Command.text = preLex source := by
  induction source with
  | nil => rfl
  | cons byte rest ih =>
      rw [lex_cons, preLex_cons]
      split
      · exact ih
      · rename_i kept
        rw [List.flatMap_cons, ih, Command.text, Command.toByte_ofByte kept]
        rfl

theorem lex_flatMap_text (list : List Command) :
    lex (list.flatMap Command.text) = list.filter (· ≠ .ignore) := by
  induction list with
  | nil => rfl
  | cons command rest ih =>
      rw [List.flatMap_cons, Command.text, List.singleton_append, lex_cons, Command.ofByte_toByte,
        ih]
      by_cases filler : command = .ignore <;> simp [filler]

theorem lex_of_instructions {instructions : List Command} (kept : .ignore ∉ instructions) :
    lex (instructions.flatMap Command.text) = instructions := by
  rw [lex_flatMap_text, List.filter_eq_self]
  intro command member
  exact decide_eq_true fun filler => kept (filler ▸ member)

theorem not_mem_lex (source : Bytes) : .ignore ∉ lex source := by
  simp [lex]

theorem lex_preLex (source : Bytes) : lex (preLex source) = lex source := by
  rw [← flatMap_text_lex, lex_of_instructions (not_mem_lex source)]

theorem preLex_preLex (source : Bytes) : preLex (preLex source) = preLex source := by
  rw [← flatMap_text_lex (preLex source), lex_preLex, flatMap_text_lex]

/-- Sources with the same instructions have one normal form. -/
theorem preLex_eq_iff {first second : Bytes} :
    preLex first = preLex second ↔ lex first = lex second := by
  constructor
  · intro same
    rw [← lex_preLex first, same, lex_preLex]
  · intro same
    rw [← flatMap_text_lex first, same, flatMap_text_lex]

/-- A source is in normal form exactly if instructions are all that is written in it. -/
theorem preLex_eq_self_iff {source : Bytes} :
    preLex source = source ↔ ∀ byte ∈ source, Command.IsInstruction byte := by
  rw [preLex, List.filter_eq_self]
  apply forall₂_congr
  intro byte _
  rw [Command.isInstruction_iff, decide_eq_true_iff]

end NormalForms

/-- Lexing and writing are inverse, and a source without its filler is their normal form: it is
written from the instructions of the source, has the same instructions, and sources have the same
one exactly if they have the same instructions. Both are found part by part, wherever the source
is cut. -/
theorem lexing_inverts_writing :
    (∀ source : Bytes,
      (lex source).flatMap Command.text = preLex source ∧
      lex (preLex source) = lex source ∧
      preLex (preLex source) = preLex source ∧
      (preLex source = source ↔ ∀ byte ∈ source, Command.IsInstruction byte)) ∧
    (∀ first second : Bytes,
      preLex (first ++ second) = preLex first ++ preLex second ∧
      lex (first ++ second) = lex first ++ lex second ∧
      (preLex first = preLex second ↔ lex first = lex second)) ∧
    ∀ instructions : List Command, .ignore ∉ instructions →
      lex (instructions.flatMap Command.text) = instructions := by
  refine ⟨?_, ?_, ?_⟩
  · intro source
    exact ⟨flatMap_text_lex source, lex_preLex source, preLex_preLex source, preLex_eq_self_iff⟩
  · intro first second
    exact ⟨preLex_append first second, lex_append first second, preLex_eq_iff⟩
  · intro instructions kept
    exact lex_of_instructions kept

/-- All eight instructions, and a source that is cut between the two bytes of a character. -/
theorem all_instructions_are_read_back :
    lex (utf8 "+-<>.,[]") =
      [.increment, .decrement, .left, .right, .output, .input, .loopStart, .loopEnd] ∧
    lex [0x2B, 0xC3] ++ lex [0xA9, 0x2D] = [.increment, .decrement] := by
  obtain ⟨_, parts, readBack⟩ := lexing_inverts_writing
  constructor
  · have kept : Command.ignore ∉
        [.increment, .decrement, .left, .right, .output, .input, .loopStart, .loopEnd] := by
      decide
    exact readBack _ kept
  · rw [← (parts [0x2B, 0xC3] [0xA9, 0x2D]).2.1]
    decide

end Brainfuck
