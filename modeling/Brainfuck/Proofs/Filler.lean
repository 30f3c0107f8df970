import Brainfuck.Proofs.Lexing
import Brainfuck.Proofs.Observation
import Brainfuck.Proofs.OpenBrackets

/-!
Filler means nothing. A source and its instructions alone are executed side by side: the pointer
and the open brackets of the one stand at the places that those of the other have among the
instructions. A filler byte moves only the first of the two runs, and only forward, so one of
them comes to an end exactly if the other does. The scan for brackets follows the same map.
-/

namespace Brainfuck

section Places

/-- How many instruction bytes of a source stand before a position. -/
def place (source : Bytes) (position : Nat) : Nat :=
  (preLex (source.take position)).length

variable {source : Bytes} {position : Nat} {command : Command}

theorem byte_of_command (found : (commands source)[position]? = some command) :
    ∃ byte, source[position]? = some byte ∧ Command.ofByte byte = command := by
  simpa [commands] using found

theorem place_succ (found : (commands source)[position]? = some command) :
    place source (position + 1) =
      if command = .ignore then place source position else place source position + 1 := by
  obtain ⟨byte, here, rfl⟩ := byte_of_command found
  rw [place, List.take_add_one, here, preLex_append, Option.toList_some, preLex_cons]
  split <;> simp [place, preLex]

/-- An instruction is found at its place. -/
theorem preLex_getElem? (found : (commands source)[position]? = some command)
    (kept : command ≠ .ignore) :
    (commands (preLex source))[place source position]? = some command := by
  obtain ⟨byte, here, rfl⟩ := byte_of_command found
  obtain ⟨inside, same⟩ := List.getElem?_eq_some_iff.mp here
  have whole : preLex source =
      preLex (source.take position) ++ byte :: preLex (source.drop (position + 1)) := calc
    preLex source = preLex (source.take position ++ source.drop position) := by
      rw [List.take_append_drop]
    _ = _ := by
      rw [preLex_append, List.drop_eq_getElem_cons inside, same, preLex_cons, if_neg kept]
  rw [whole]
  simp [commands, place]

theorem preLex_outside (outside : (commands source)[position]? = none) :
    (commands (preLex source))[place source position]? = none := by
  have short : source.length ≤ position := by simpa [commands] using outside
  simp [place, commands, List.take_of_length_le short]

end Places

section Relocation

def Fault.relocate (move : Nat → Nat) : Fault → Fault
  | .unmatchedClose position => .unmatchedClose (move position.toNat)
  | .unmatchedOpen position => .unmatchedOpen (move position.toNat)
  | fault => fault

/-- Only the fault that a run ends with is moved, and none below a label. -/
def Error.relocate (move : Nat → Nat) : Error → Error
  | .leaf (.fault cause) => .fault (cause.relocate move)
  | error => error

def Interpreter.Result.relocate (move : Nat → Nat) (result : Interpreter.Result) :
    Interpreter.Result :=
  { result with error := result.error.map (Error.relocate move) }

namespace Machine

variable (move : Nat → Nat)

def Halt.relocate : Halt → Halt
  | .failed error => .failed (error.relocate move)
  | .unclosed position => .unclosed (move position)
  | halt => halt

/-- The same machine with its pointer and its open brackets at other positions. -/
def relocate (machine : Machine) : Machine :=
  { machine with pointer := move machine.pointer, loops := machine.loops.map move }

def Step.relocate : Step → Step
  | .next machine => .next (machine.relocate move)
  | .failed machine error => .failed (machine.relocate move) (error.relocate move)

theorem atEnd_relocate (machine : Machine) :
    (machine.relocate move).atEnd = machine.atEnd.relocate move := by
  simp only [atEnd, relocate]
  cases machine.loops <;> rfl

theorem outcome_relocate (machine : Machine) (halt : Halt) :
    Interpreter.outcome (machine.relocate move) (halt.relocate move) =
      (Interpreter.outcome machine halt).relocate move := by
  cases halt <;> rfl

end Machine

end Relocation

namespace Machine

variable {source : Bytes} {limit : Int64}

/-- Every open bracket is one of the source. -/
def Marked (source : Bytes) (machine : Machine) : Prop :=
  ∀ position ∈ machine.loops, (commands source)[position]? = some .loopStart

theorem moves_marked {watch : Watch} {machine later : Machine} {command : Command}
    (moved : Moves (commands source) limit watch machine later command)
    (marked : Marked source machine) : Marked source later := by
  intro position member
  rcases execute_next_control moved.executed with
    ⟨rfl, loops, _⟩ | ⟨rfl, innermost, outer, opened, control⟩ | ⟨_, _, loops, _⟩
  · rw [loops, List.mem_cons] at member
    rcases member with rfl | member
    · exact moved.found
    · exact marked position member
  · rcases control with ⟨loops, _⟩ | ⟨loops, _⟩
    · exact marked position (loops ▸ member)
    · apply marked position
      rw [opened]
      exact List.mem_cons_of_mem innermost (loops ▸ member)
  · exact marked position (loops ▸ member)

section Instructions

variable {machine : Machine}

theorem readLine_relocate
    (ahead : place source (machine.pointer + 1) = place source machine.pointer + 1) :
    (machine.relocate (place source)).readLine = machine.readLine.relocate (place source) := by
  cases given : machine.source with
  | none => simp [readLine, relocate, given, advance, Step.relocate, ahead]
  | some lines =>
      simp only [readLine, relocate, given, advance, ← ahead]
      split
      · rfl
      · split <;> rfl

/-- The way back leads behind a bracket, which is an instruction. So it leads to the next place
in both runs, even if there is filler behind that bracket. -/
theorem closeLoop_relocate
    (ahead : place source (machine.pointer + 1) = place source machine.pointer + 1)
    (marked : Marked source machine) :
    (machine.relocate (place source)).closeLoop limit =
      (machine.closeLoop limit).relocate (place source) := by
  have counted : (machine.relocate (place source)).closes = machine.closes := rfl
  simp only [closeLoop, counted]
  by_cases exceeded : limit ≠ -1 ∧ limit < machine.closes + 1
  · rw [if_pos exceeded, if_pos exceeded]
    rfl
  · rw [if_neg exceeded, if_neg exceeded]
    cases opened : machine.loops with
    | nil => simp [relocate, opened, Step.relocate, Error.relocate, Error.fault, Fault.relocate]
    | cons innermost outer =>
        have inner := place_succ (marked innermost (opened ▸ List.mem_cons_self))
        rw [if_neg (by decide)] at inner
        by_cases nonzero : machine.tape.get ≠ 0 <;>
          simp [relocate, opened, Step.relocate, nonzero, inner, ahead]

theorem execute_relocate {command : Command}
    (found : (commands source)[machine.pointer]? = some command) (kept : command ≠ .ignore)
    (marked : Marked source machine) :
    (machine.relocate (place source)).execute limit command =
      (machine.execute limit command).relocate (place source) := by
  have ahead := place_succ found
  rw [if_neg kept] at ahead
  cases command with
  | ignore => contradiction
  | increment | decrement | left | right | output | loopStart =>
      simp [execute, Step.relocate, relocate, ahead]
  | input => exact readLine_relocate ahead
  | loopEnd => exact closeLoop_relocate ahead marked

end Instructions

theorem moves_relocate {watch : Watch} {machine later : Machine} {command : Command}
    (moved : Moves (commands source) limit watch machine later command)
    (kept : command ≠ .ignore) (marked : Marked source machine) :
    Moves (commands (preLex source)) limit .never (machine.relocate (place source))
      (later.relocate (place source)) command := by
  refine ⟨preLex_getElem? moved.found kept, rfl, ?_⟩
  rw [execute_relocate moved.found kept marked, moved.executed]
  rfl

theorem relocate_of_filler {watch : Watch} {machine later : Machine}
    (moved : Moves (commands source) limit watch machine later .ignore) :
    later.relocate (place source) = machine.relocate (place source) := by
  have same := place_succ moved.found
  rw [if_pos rfl] at same
  cases moved.executed
  simp [advance, relocate, same]

theorem steps_relocate {watch : Watch} {count : Nat} {before after : Machine}
    (path : Steps (commands source) limit watch count before after)
    (marked : Marked source before) :
    ∃ fewer, Steps (commands (preLex source)) limit .never fewer
      (before.relocate (place source)) (after.relocate (place source)) := by
  induction path with
  | refl machine => exact ⟨0, .refl _⟩
  | @next _ count before middle after command moved _ ih =>
      obtain ⟨fewer, rest⟩ := ih (moves_marked moved marked)
      by_cases filler : command = .ignore
      · -- The instructions alone stand still.
        subst filler
        rw [relocate_of_filler moved] at rest
        exact ⟨fewer, rest⟩
      · exact ⟨fewer + 1, .next (moves_relocate moved filler marked) rest⟩

theorem ends_relocate {last final : Machine} {halt : Halt}
    (ended : Ends (commands source) limit .never last final halt) (marked : Marked source last) :
    Ends (commands (preLex source)) limit .never (last.relocate (place source))
      (final.relocate (place source)) (halt.relocate (place source)) := by
  cases ended with
  | complete outside =>
      rw [← atEnd_relocate]
      exact .complete _ (preLex_outside outside)
  | interrupted command cause found raised => cases raised
  | failed _ command error found unwatched executed =>
      have kept : command ≠ .ignore := by
        rintro rfl
        cases executed
      apply Ends.failed _ _ command _ (preLex_getElem? found kept) rfl
      rw [execute_relocate found kept marked, executed]
      rfl

/-- Filler is passed in finitely many steps, to an instruction or to the end. -/
theorem steps_to_instruction (source : Bytes) (limit : Int64) (machine : Machine) :
    ∃ count later, Steps (commands source) limit .never count machine later ∧
      later.relocate (place source) = machine.relocate (place source) ∧
      later.loops = machine.loops ∧ (commands source)[later.pointer]? ≠ some .ignore := by
  induction ahead : (commands source).length - machine.pointer generalizing machine with
  | zero =>
      refine ⟨0, machine, .refl machine, rfl, rfl, ?_⟩
      rw [List.getElem?_eq_none (by omega)]
      nofun
  | succ ahead ih =>
      by_cases found : (commands source)[machine.pointer]? = some .ignore
      · have moved : Moves (commands source) limit .never machine machine.advance .ignore :=
          ⟨found, rfl, rfl⟩
        obtain ⟨count, later, path, same, loops, clear⟩ := ih machine.advance (by
          change _ - (machine.pointer + 1) = _
          omega)
        rw [relocate_of_filler moved] at same
        exact ⟨count + 1, later, .next moved path, same, loops, clear⟩
      · exact ⟨0, machine, .refl machine, rfl, rfl, found⟩

/-- By induction on the fuel for the instructions alone: between two of them there is a finite
stretch of filler. -/
theorem run_of_relocate {machine : Machine} {fuel : Nat} {result : Machine × Halt}
    (marked : Marked source machine)
    (halted : (machine.relocate (place source)).run (commands (preLex source)).toArray limit .never
      fuel = some result) :
    ∃ more final halt, machine.run (commands source).toArray limit .never more =
      some (final, halt) := by
  induction fuel generalizing machine with
  | zero => cases halted
  | succ fuel ih =>
      obtain ⟨count, later, path, same, loops, clear⟩ := steps_to_instruction source limit machine
      rw [← same] at halted
      have kept : Marked source later := by
        intro position member
        exact marked position (loops ▸ member)
      rcases moves_or_ends (commands source) limit .never later with
        ⟨command, next, moved⟩ | ⟨final, halt, ended⟩
      · have instruction : command ≠ .ignore := by
          rintro rfl
          exact clear moved.found
        rw [run_of_moves (moves_relocate moved instruction kept)] at halted
        obtain ⟨more, final, halt, ran⟩ := ih (moves_marked moved kept) halted
        refine ⟨more + 1 + count, final, halt, ?_⟩
        rw [run_of_steps path, Watch.pass_never, run_of_moves moved, ← ran, Watch.pass_never]
      · refine ⟨1 + count, final, halt, ?_⟩
        rw [run_of_steps path]
        exact run_of_ends ended 0

end Machine

namespace Brackets

theorem push?_relocate {source : Bytes} {position : Nat} {command : Command}
    (opened : List Nat) :
    push? (place source position) (opened.map (place source)) command =
      (push? position opened command).map (List.map (place source)) := by
  cases command with
  | loopEnd => cases opened <;> rfl
  | increment | decrement | left | right | output | input | loopStart | ignore => rfl

theorem scan_relocate {source : Bytes} {position : Nat} {rest : List Command}
    (here : (commands source).drop position = rest) (opened : List Nat) :
    scan (place source position) (opened.map (place source)) (rest.filter (· ≠ .ignore)) =
      (scan position opened rest).map (Fault.relocate (place source)) := by
  induction rest generalizing position opened with
  | nil => cases opened <;> simp [scan, Fault.relocate]
  | cons command rest ih =>
      have found : (commands source)[position]? = some command := by
        rw [← List.head?_drop, here]
        rfl
      have tail : (commands source).drop (position + 1) = rest := by
        rw [← List.tail_drop, here]
        rfl
      have ahead := place_succ found
      by_cases filler : command = .ignore
      · subst filler
        rw [if_pos rfl] at ahead
        rw [List.filter_cons_of_neg (by simp), scan_cons, ← ahead]
        exact ih tail opened
      · rw [if_neg filler] at ahead
        rw [List.filter_cons_of_pos (by simpa using filler), scan_cons, scan_cons, push?_relocate]
        cases push? position opened command with
        | none => simp [Fault.relocate]
        | some later =>
            simp only [Option.map_some]
            rw [← ahead]
            exact ih tail later

theorem validate_preLex (source : Bytes) :
    validate (preLex source) = (validate source).map (Fault.relocate (place source)) := by
  rw [validate, commands_preLex]
  exact scan_relocate List.drop_zero []

end Brackets

namespace Interpreter

variable {interpreter : Interpreter}

theorem leaves_preLex {result : Result} {final : Machine}
    (left : interpreter.Leaves result final) :
    (interpreter.withProgram (preLex interpreter.program)).Leaves
      (result.relocate (place interpreter.program))
      (final.relocate (place interpreter.program)) := by
  obtain ⟨fuel, left⟩ := left
  obtain ⟨halt, ran, rfl⟩ := yields_eq_some_iff.mp left
  obtain ⟨count, last, _, path, ended⟩ := Machine.run_eq_some_iff.mp ran
  have marked : Machine.Marked interpreter.program interpreter.machine.reset := nofun
  obtain ⟨fewer, dense⟩ := Machine.steps_relocate path marked
  have stopped := Machine.ends_relocate ended (path.invariant Machine.moves_marked marked)
  refine ⟨fewer + 1, yields_eq_some_iff.mpr ⟨halt.relocate (place interpreter.program), ?_, ?_⟩⟩
  · exact Machine.run_eq_some_iff.mpr ⟨fewer, _, Nat.lt_succ_self fewer, dense, stopped⟩
  · exact (Machine.outcome_relocate _ final halt).symm

theorem leaves_of_preLex {result : Result} {final : Machine}
    (left : (interpreter.withProgram (preLex interpreter.program)).Leaves result final) :
    ∃ result final, interpreter.Leaves result final := by
  obtain ⟨fuel, left⟩ := left
  obtain ⟨halt, ran, rfl⟩ := yields_eq_some_iff.mp left
  have marked : Machine.Marked interpreter.program interpreter.machine.reset := nofun
  obtain ⟨more, last, ending, halted⟩ := Machine.run_of_relocate marked ran
  exact ⟨_, last, more, yields_eq_some_iff.mpr ⟨ending, halted, rfl⟩⟩

theorem preLex_runs_alike (interpreter : Interpreter) :
    interpreter.Diverges ∧ (interpreter.withProgram (preLex interpreter.program)).Diverges ∨
      ∃ result final, interpreter.Leaves result final ∧
        (interpreter.withProgram (preLex interpreter.program)).Leaves
          (result.relocate (place interpreter.program))
          (final.relocate (place interpreter.program)) := by
  rcases diverges_or_leaves interpreter with endless | ⟨result, final, left⟩
  · left
    refine ⟨endless, ?_⟩
    rcases diverges_or_leaves (interpreter.withProgram (preLex interpreter.program)) with
      same | ⟨result, final, dense⟩
    · exact same
    · obtain ⟨_, _, fuel, left⟩ := leaves_of_preLex dense
      rw [endless fuel] at left
      cases left
  · exact .inr ⟨result, final, left, leaves_preLex left⟩

/-- Two runs that both go on for ever, or that leave the same behind but for positions, which
are compared by their places among the instructions. -/
def Agrees (first second : Interpreter) : Prop :=
  first.Diverges ∧ second.Diverges ∨
    ∃ result final other last, first.Leaves result final ∧ second.Leaves other last ∧
      result.relocate (place first.program) =
        other.relocate (place second.program) ∧
      final.relocate (place first.program) = last.relocate (place second.program)

theorem yields_of_commands {first second : Bytes} (same : commands first = commands second)
    (interpreter : Interpreter) (fuel : Nat) (watch : Watch) :
    (interpreter.withProgram first).yields fuel watch =
      (interpreter.withProgram second).yields fuel watch := by
  simp only [yields_eq, withProgram, same]

theorem agrees_of_lex {other : Bytes} (same : lex other = lex interpreter.program) :
    interpreter.Agrees (interpreter.withProgram other) := by
  have dense : commands (preLex other) = commands (preLex interpreter.program) := by
    rw [commands_preLex, commands_preLex, same]
  -- Both runs are tied to one and the same run of instructions.
  rcases preLex_runs_alike interpreter with
    ⟨endless, denseEndless⟩ | ⟨result, final, left, denseLeft⟩
  · rcases preLex_runs_alike (interpreter.withProgram other) with
      ⟨otherEndless, _⟩ | ⟨_, _, _, fuel, otherDense⟩
    · exact .inl ⟨endless, otherEndless⟩
    · have stopped := yields_of_commands dense interpreter fuel .never
      rw [denseEndless fuel] at stopped
      cases otherDense.symm.trans stopped
  · rcases preLex_runs_alike (interpreter.withProgram other) with
      ⟨_, otherEndless⟩ | ⟨ending, last, otherLeft, fuel, otherDense⟩
    · obtain ⟨fuel, denseLeft⟩ := denseLeft
      have stopped := yields_of_commands dense interpreter fuel .never
      cases (otherEndless fuel).symm.trans (stopped.trans denseLeft)
    · have again := (yields_of_commands dense interpreter fuel .never).symm.trans otherDense
      exact .inr ⟨result, final, ending, last, left, otherLeft, denseLeft.unique ⟨fuel, again⟩⟩

/-- Filler never changes meaning. A source and its instructions alone both go on for ever, or
leave the same behind; only the position of a blamed bracket is counted in instructions, and
validation blames the same bracket. So sources with the same instructions agree. -/
theorem filler_keeps_meaning (interpreter : Interpreter) :
    (interpreter.Diverges ∧ (interpreter.withProgram (preLex interpreter.program)).Diverges ∨
      ∃ result final, interpreter.Leaves result final ∧
        (interpreter.withProgram (preLex interpreter.program)).Leaves
          (result.relocate (place interpreter.program))
          (final.relocate (place interpreter.program))) ∧
    Brackets.validate (preLex interpreter.program) =
      (Brackets.validate interpreter.program).map (Fault.relocate (place interpreter.program)) ∧
    ∀ other, lex other = lex interpreter.program →
      interpreter.Agrees (interpreter.withProgram other) ∧
      (Brackets.validate interpreter.program).map (Fault.relocate (place interpreter.program)) =
        (Brackets.validate other).map (Fault.relocate (place other)) := by
  refine ⟨preLex_runs_alike interpreter, Brackets.validate_preLex interpreter.program, ?_⟩
  intro other same
  refine ⟨agrees_of_lex same, ?_⟩
  rw [← Brackets.validate_preLex, ← Brackets.validate_preLex, Brackets.validate, Brackets.validate,
    commands_preLex, commands_preLex, same]

/-- The last bracket of `a[b-]c[ d` stays open, with filler all round it. -/
def commented : Interpreter :=
  ⟨utf8 "a[b-]c[ d", Limits.unbounded, .start .single none⟩

theorem commented_agrees :
    lex (utf8 "[-]é[") = lex commented.program ∧
      commented.Agrees (commented.withProgram (utf8 "[-]é[")) ∧
      Brackets.validate commented.program = some (.unmatchedOpen 6) ∧
      (Brackets.validate (utf8 "[-]é[")).map (Fault.relocate (place (utf8 "[-]é["))) =
        some (.unmatchedOpen 3) := by
  have same : lex (utf8 "[-]é[") = lex commented.program := by decide +kernel
  have refused : Brackets.validate commented.program = some (.unmatchedOpen 6) := by
    decide +kernel
  obtain ⟨agrees, blamed⟩ := (filler_keeps_meaning commented).2.2 _ same
  refine ⟨same, agrees, refused, ?_⟩
  rw [← blamed, refused]
  decide +kernel

end Interpreter

end Brainfuck
