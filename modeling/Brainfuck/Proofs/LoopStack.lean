import Brainfuck.Proofs.Balance
import Brainfuck.Proofs.Observation
import Brainfuck.Proofs.Validation

/-!
The stack of open loops. Whatever a run has done, its stack is the one that a scan of the program
holds at the pointer, and each position below the pointer has had its turn. This is true of every
machine that a run passes and of the one that it leaves behind.
-/

namespace Brainfuck

namespace Brackets

-- A scan tells its stack by the bracket that it blames, and `]` uncovers the bracket below it.
theorem scan_injective {position : Nat} {first second : List Nat}
    (alike : ∀ after, scan position first (commands after) =
      scan position second (commands after)) : first = second := by
  induction first generalizing position second with
  | nil =>
      have ends := alike []
      cases second with
      | nil => rfl
      | cons innermost outer => cases ends
  | cons innermost outer ih =>
      have ends := alike []
      cases second with
      | nil => cases ends
      | cons other below =>
          have blamed : (innermost : Int) = other := by simpa [commands, scan] using ends
          have tails : outer = below := ih fun after => alike (0x5D :: after)
          rw [Int.ofNat_inj.mp blamed, tails]

theorem eq_opened_iff {before : Bytes} {opened stack : List Nat}
    (scanned : opened? (commands before) = some opened) :
    stack = opened ↔
      ∀ after, validate (before ++ after) = scan before.length stack (commands after) := by
  have onward : ∀ after,
      validate (before ++ after) = scan before.length opened (commands after) := by
    intro after
    have length : (commands before).length = before.length := List.length_map _
    rw [validate, commands_append, scan_append scanned, length, Nat.zero_add]
  constructor
  · rintro rfl
    exact onward
  · intro alike
    apply scan_injective
    intro after
    rw [← alike after, onward after]

theorem opened?_descending {commands : List Command} {count : Nat} {opened : List Nat}
    (scanned : opened? (commands.take count) = some opened) : opened.Pairwise (· > ·) := by
  induction opened generalizing count with
  | nil => exact .nil
  | cons innermost outer ih =>
      obtain ⟨_, _, before⟩ := opened?_take_cons scanned
      apply List.Pairwise.cons
      · intro position member
        exact opened?_lt before member
      · exact ih before

end Brackets

namespace Machine

section Control

variable {commands : List Command} {limit : Int64} {watch : Watch} {machine later : Machine}

theorem execute_failed_control {command : Command} {error : Error}
    (executed : machine.execute limit command = .failed later error) :
    later.pointer = machine.pointer ∧ later.loops = machine.loops := by
  cases command with
  | input =>
      simp only [execute, readLine] at executed
      split at executed
      · cases executed
      · split at executed
        · cases executed
        · split at executed
          · cases executed
          · cases executed
            exact ⟨rfl, rfl⟩
  | loopEnd =>
      simp only [execute, closeLoop] at executed
      split at executed
      · cases executed
        exact ⟨rfl, rfl⟩
      · split at executed
        · cases executed
          exact ⟨rfl, rfl⟩
        · split at executed <;> cases executed
  | increment | decrement | left | right | output | loopStart | ignore => cases executed

theorem ends_control {halt : Halt} (ended : Ends commands limit watch machine later halt) :
    later.pointer = machine.pointer ∧ later.loops = machine.loops := by
  cases ended with
  | complete outside => exact ⟨rfl, rfl⟩
  | interrupted command cause found raised => exact ⟨rfl, rfl⟩
  | failed _ command error found unwatched executed => exact execute_failed_control executed

theorem ends_aligned {halt : Halt} (ended : Ends commands limit watch machine later halt)
    (aligned : Aligned commands machine) : Aligned commands later := by
  obtain ⟨pointer, loops⟩ := ends_control ended
  constructor
  · rw [pointer]
    exact aligned.inside
  · rw [pointer, loops]
    exact aligned.loops

-- Commands are passed one at a time; only the way back is longer than one.
theorem moves_pointer_le {command : Command}
    (moved : Moves commands limit watch machine later command)
    (aligned : Aligned commands machine) : later.pointer ≤ machine.pointer + 1 := by
  rcases execute_next_control moved.executed with
    ⟨_, _, pointer⟩ | ⟨_, innermost, outer, opened, control⟩ | ⟨_, _, _, pointer⟩
  · exact Nat.le_of_eq pointer
  · rcases control with ⟨_, pointer⟩ | ⟨_, pointer⟩
    · have scanned := aligned.loops
      rw [opened] at scanned
      obtain ⟨below, _, _⟩ := Brackets.opened?_take_cons scanned
      omega
    · exact Nat.le_of_eq pointer
  · exact Nat.le_of_eq pointer

theorem steps_cover {count position : Nat}
    (path : Steps commands limit watch count machine later) (aligned : Aligned commands machine)
    (below : position < later.pointer) :
    position < machine.pointer ∨
      ∃ passed ∈ visited commands limit watch count machine, passed.pointer = position := by
  induction path with
  | refl => exact .inl below
  | @next _ count before middle after command moved _ ih =>
      have reach := moves_pointer_le moved aligned
      rw [visited_of_moves moved]
      rcases ih (moves_aligned moved aligned) below with earlier | ⟨passed, member, same⟩
      · by_cases here : before.pointer = position
        · exact .inr ⟨before, List.mem_cons_self, here⟩
        · left
          omega
      · exact .inr ⟨passed, List.mem_cons_of_mem before member, same⟩

end Control

/-- A machine in mid program, with what has been executed so far. -/
structure InPlace (program : Bytes) (executed : List Nat) (machine : Machine) : Prop where
  inside : machine.pointer ≤ program.length
  /-- The loops, and no other stack, are what validation goes on with at the pointer. -/
  scanned : ∀ stack, stack = machine.loops ↔
    ∀ after, Brackets.validate (program.take machine.pointer ++ after) =
      Brackets.scan machine.pointer stack (commands after)
  ascending : machine.loops.reverse.Pairwise (· < ·)
  brackets : ∀ position ∈ machine.loops,
    position < machine.pointer ∧ program[position]? = some 0x5B
  passed : ∀ position < machine.pointer, position ∈ executed
  /-- The loops are those that were begun before the pointer and not ended there. -/
  nested : ∀ position, position ∈ machine.loops ↔
    position ∈ Brackets.unclosed (program.take machine.pointer)
  depth : (machine.loops.length : Int) = Brackets.surplus (program.take machine.pointer)

theorem Aligned.inPlace {program : Bytes} {executed : List Nat} {machine : Machine}
    (aligned : Aligned (commands program) machine)
    (passed : ∀ position < machine.pointer, position ∈ executed) :
    machine.InPlace program executed := by
  have inside : machine.pointer ≤ program.length := by
    simpa [commands] using aligned.inside
  have length : (program.take machine.pointer).length = machine.pointer := by
    rw [List.length_take, Nat.min_eq_left inside]
  have scanned : Brackets.opened? (commands (program.take machine.pointer)) =
      some machine.loops := by
    rw [commands, List.map_take]
    exact aligned.loops
  refine ⟨inside, ?_, ?_, ?_, passed, ?_, ?_⟩
  · intro stack
    rw [Brackets.eq_opened_iff scanned, length]
  · rw [List.pairwise_reverse]
    exact Brackets.opened?_descending aligned.loops
  · intro position member
    obtain ⟨above, outer, split⟩ := List.append_of_mem member
    have stacked := aligned.loops
    rw [split] at stacked
    obtain ⟨below, found, _⟩ := Brackets.opened?_below stacked
    rw [commands, List.getElem?_map, Option.map_eq_some_iff] at found
    obtain ⟨byte, found, start⟩ := found
    rw [Command.ofByte_eq_loopStart_iff] at start
    exact ⟨below, start ▸ found⟩
  · intro position
    exact Brackets.mem_opened_iff scanned
  · exact Brackets.opened?_length scanned

end Machine

namespace Interpreter

/-- The machines that a run comes by or leaves behind, with the number of commands that have
succeeded before. -/
inductive Reaches (interpreter : Interpreter) (watch : Watch) : Nat → Machine → Prop where
  | passes {count : Nat} {machine : Machine}
      (path : Machine.Steps (commands interpreter.program) interpreter.loopLimit watch count
        interpreter.machine.reset machine) :
      Reaches interpreter watch count machine
  | leaves {count : Nat} {last final : Machine} {halt : Machine.Halt}
      (path : Machine.Steps (commands interpreter.program) interpreter.loopLimit watch count
        interpreter.machine.reset last)
      (ended : Machine.Ends (commands interpreter.program) interpreter.loopLimit
        (watch.pass count) last final halt) :
      Reaches interpreter watch count final

theorem reaches_of_run {interpreter final : Interpreter} {fuel : Nat} {watch : Watch}
    {report : Report} (ran : interpreter.run fuel watch = some (report, final)) :
    ∃ count < fuel, interpreter.Reaches watch count final.machine := by
  obtain ⟨machine, halt, halted, rfl, _⟩ := run_eq_some_iff.mp ran
  obtain ⟨count, last, short, path, ended⟩ := Machine.run_eq_some_iff.mp halted
  exact ⟨count, short, .leaves path ended⟩

theorem reset_aligned (interpreter : Interpreter) :
    Machine.Aligned (commands interpreter.program) interpreter.machine.reset :=
  Machine.start_aligned interpreter.machine.tape interpreter.machine.source

theorem steps_executed {interpreter : Interpreter} {watch : Watch} {count position : Nat}
    {machine : Machine}
    (path : Machine.Steps (commands interpreter.program) interpreter.loopLimit watch count
      interpreter.machine.reset machine) (below : position < machine.pointer) :
    position ∈ (interpreter.visited count watch).map Machine.pointer := by
  rcases Machine.steps_cover path interpreter.reset_aligned below with
    before | ⟨passed, member, same⟩
  · cases before
  · exact List.mem_map.mpr ⟨passed, member, same⟩

/-- At every machine of every run the open loops are what the scan of the program has open at the
pointer, and all that stands before the pointer has been executed. -/
theorem loops_follow_scan {interpreter : Interpreter} {watch : Watch} {count : Nat}
    {machine : Machine} (reached : interpreter.Reaches watch count machine) :
    machine.InPlace interpreter.program
      ((interpreter.visited count watch).map Machine.pointer) := by
  cases reached with
  | passes path =>
      apply (Machine.steps_aligned path interpreter.reset_aligned).inPlace
      intro position below
      exact steps_executed path below
  | leaves path ended =>
      have aligned := Machine.steps_aligned path interpreter.reset_aligned
      apply (Machine.ends_aligned ended aligned).inPlace
      intro position below
      rw [(Machine.ends_control ended).1] at below
      exact steps_executed path below

/-- Comes to the end of its inner loop in a second round of the outer one, and is cut off there. -/
def reentered : Interpreter :=
  ⟨utf8 "+[[-]+]", 2, .start .single none⟩

theorem reentered_loops_follow_scan :
    ∃ report final, reentered.run 20 .never = some (report, final) ∧
      final.machine.pointer = 4 ∧ final.machine.loops = [2, 1] ∧
      (∀ after, Brackets.validate (utf8 "+[[-" ++ after) =
        Brackets.scan 4 [2, 1] (commands after)) ∧
      ∀ position, position ∈ [2, 1] ↔ position ∈ Brackets.unclosed (utf8 "+[[-") := by
  have cut : (reentered.run 20 .never).map
      (fun ran => (ran.2.machine.pointer, ran.2.machine.loops)) = some (4, [2, 1]) := by
    decide +kernel
  obtain ⟨⟨report, final⟩, ran, left⟩ := Option.map_eq_some_iff.mp cut
  obtain ⟨pointer, loops⟩ := Prod.mk.inj left
  obtain ⟨count, _, reached⟩ := reaches_of_run ran
  have placed := loops_follow_scan reached
  have stack := (placed.scanned final.machine.loops).mp rfl
  have nested := placed.nested
  rw [pointer] at stack nested
  rw [loops] at stack nested
  exact ⟨report, final, ran, pointer, loops, stack, nested⟩

end Interpreter

end Brainfuck
