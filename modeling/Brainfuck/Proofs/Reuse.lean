import Brainfuck.Proofs.Observation

/-!
Interpreters that are used again. Whatever was done with an interpreter, its next run starts
from a machine that depends on nothing but the size of its tape and the lines still to come.
The size is what every command, every run and every other use keeps, so the next run is the run
of an interpreter that was built anew.
-/

namespace Brainfuck

namespace Machine

variable {commands : List Command} {limit : Int64} {watch : Watch}

theorem steps_size {count : Nat} {before after : Machine}
    (path : Steps commands limit watch count before after) :
    after.tape.size = before.tape.size :=
  path.invariant (fun moved kept => (moves_frame moved).2.trans kept) rfl

theorem run_size {machine final : Machine} {halt : Halt} {fuel : Nat}
    (halted : machine.run commands.toArray limit watch fuel = some (final, halt)) :
    final.tape.size = machine.tape.size := by
  obtain ⟨count, last, _, path, ended⟩ := run_eq_some_iff.mp halted
  rw [← steps_size path]
  cases ended with
  | complete | interrupted => rfl
  | failed _ command error _ _ executed =>
      have kept := (execute_frame limit command last).2
      rwa [executed] at kept

end Machine

namespace Interpreter

section Building

def chosen (settings : List Setting) : Limits × Option LineSource :=
  settings.foldl (fun (limits, source) setting => setting.apply limits source)
    (Limits.standard, none)

theorem create_eq_build (program : Bytes) (settings : List Setting) :
    create program settings = build program (chosen settings).1 (chosen settings).2 :=
  rfl

theorem chosen_input (settings : List Setting) (source : Option LineSource) :
    chosen (settings ++ [.input source]) = ((chosen settings).1, source) := by
  rw [chosen, List.foldl_append]
  rfl

theorem build_eq_ok_iff {program : Bytes} {limits : Limits} {source : Option LineSource}
    {interpreter : Interpreter} :
    build program limits source = .ok interpreter ↔
      limits.check = none ∧ ∃ tape, Tape.ofSize limits.tapeSize = .ok tape ∧
        interpreter = ⟨program, limits.loopLimit, .start tape source⟩ := by
  cases checked : limits.check with
  | some fault => simp [build_of_fault checked]
  | none =>
      simp only [build, checked]
      cases Tape.ofSize limits.tapeSize with
      | error fault => simp [bind, Except.bind]
      | ok tape =>
          simp only [Except.ok.injEq, exists_eq_left', true_and]
          constructor
          · intro same
            cases same
            rfl
          · rintro rfl
            rfl

end Building

/-- What can be done with an interpreter. -/
inductive Use : Interpreter → Interpreter → Prop where
  /-- A run that succeeds, fails, or obeys a request to stop. -/
  | run {before after : Interpreter} {fuel : Nat} {watch : Watch} {report : Report}
      (ran : before.run fuel watch = some (report, after)) : Use before after
  /-- A run that is stopped from outside, at any time. -/
  | stop {before : Interpreter} {machine : Machine} (stopped : before.StopsAt machine) :
      Use before { before with machine }
  | reset (before : Interpreter) : Use before before.reset
  | setProgram (before : Interpreter) (program : Bytes) : Use before (before.withProgram program)
  | setInput (before : Interpreter) (source : Option LineSource) :
      Use before (before.withInput source)
  /-- The cells, the cursor and the counts are looked at. -/
  | look (before : Interpreter) : Use before before

inductive Uses : Interpreter → Interpreter → Prop where
  | refl (interpreter : Interpreter) : Uses interpreter interpreter
  | next {before middle after : Interpreter} (first : Use before middle)
      (rest : Uses middle after) : Uses before after

theorem Use.keeps {before after : Interpreter} (use : Use before after) :
    after.loopLimit = before.loopLimit ∧ after.memoryLength = before.memoryLength := by
  cases use with
  | run ran =>
      obtain ⟨machine, halt, halted, rfl, rfl⟩ := run_eq_some_iff.mp ran
      refine ⟨rfl, ?_⟩
      exact (Machine.run_size halted).trans (Tape.size_reset before.machine.tape)
  | stop stopped =>
      obtain ⟨count, command, path, _⟩ := stopped
      refine ⟨rfl, ?_⟩
      exact (Machine.steps_size path).trans (Tape.size_reset before.machine.tape)
  | reset => exact ⟨rfl, Tape.size_reset before.machine.tape⟩
  | setProgram | setInput | look => exact ⟨rfl, rfl⟩

theorem Uses.keeps {before after : Interpreter} (uses : Uses before after) :
    after.loopLimit = before.loopLimit ∧ after.memoryLength = before.memoryLength := by
  induction uses with
  | refl => exact ⟨rfl, rfl⟩
  | next first _ ih =>
      obtain ⟨limit, size⟩ := first.keeps
      exact ⟨ih.1.trans limit, ih.2.trans size⟩

/-- A run depends on the program, the limit, the size of the tape and the lines to come. -/
theorem run_congr {first second : Interpreter} (program : first.program = second.program)
    (limit : first.loopLimit = second.loopLimit)
    (size : first.memoryLength = second.memoryLength)
    (source : first.machine.source = second.machine.source) :
    (∀ fuel watch, first.run fuel watch = second.run fuel watch) ∧
      ∀ machine, first.StopsAt machine ↔ second.StopsAt machine := by
  have start : first.machine.reset = second.machine.reset := by
    simp only [Machine.reset, Machine.start, source, Tape.reset_of_size size]
  constructor
  · intro fuel watch
    obtain ⟨firstProgram, firstLimit, firstMachine⟩ := first
    obtain ⟨secondProgram, secondLimit, secondMachine⟩ := second
    simp only at program limit start
    simp only [run, program, limit, start]
  · intro machine
    simp only [StopsAt, program, limit, start]

/-- An interpreter carries nothing from one run to the next: whatever was done with it since it
was built, its next run is the run of one that is built now, with the same settings, for the
program and the input that it has. The length of its memory has never changed. -/
theorem run_forgets_history {program : Bytes} {settings : List Setting}
    {created used : Interpreter} (made : create program settings = .ok created)
    (uses : Uses created used) :
    used.memoryLength = created.memoryLength ∧
    ∃ fresh, create used.program (settings ++ [.input used.machine.source]) = .ok fresh ∧
      (∀ fuel watch, used.run fuel watch = fresh.run fuel watch) ∧
      ∀ machine, used.StopsAt machine ↔ fresh.StopsAt machine := by
  obtain ⟨limit, size⟩ := uses.keeps
  refine ⟨size, ?_⟩
  rw [create_eq_build] at made
  obtain ⟨checked, tape, sized, rfl⟩ := build_eq_ok_iff.mp made
  refine ⟨⟨used.program, (chosen settings).1.loopLimit, .start tape used.machine.source⟩, ?_, ?_⟩
  · rw [create_eq_build, chosen_input]
    exact build_eq_ok_iff.mpr ⟨checked, tape, sized, rfl⟩
  · exact run_congr rfl limit size rfl

/-- A run of `+[.` ends inside its loop, with a cell printed. -/
def insideLoop : Interpreter :=
  ⟨utf8 "+[.", 3, .start (.blank 2 (by decide) (by decide)) none⟩

theorem run_inside_loop_is_forgotten :
    ∃ used fresh, Uses insideLoop used ∧ used.program = utf8 "." ∧ used.machine.loops = [1] ∧
      create (utf8 ".") [.tapeSize 2, .loopLimit 3, .input none] = .ok fresh ∧
      used.run 9 .never = fresh.run 9 .never := by
  have made : create (utf8 "+[.") [.tapeSize 2, .loopLimit 3] = .ok insideLoop := by rfl
  obtain ⟨report, after, ran, loops, source⟩ : ∃ report after,
      insideLoop.run 9 .never = some (report, after) ∧ after.machine.loops = [1] ∧
        after.machine.source = none := ⟨_, _, rfl, rfl, rfl⟩
  have uses : Uses insideLoop (after.withProgram (utf8 ".")) :=
    .next (.run ran) (.next (.setProgram after _) (.refl _))
  obtain ⟨_, fresh, built, same, _⟩ := run_forgets_history made uses
  change create (utf8 ".") [.tapeSize 2, .loopLimit 3, .input after.machine.source] = _ at built
  rw [source] at built
  exact ⟨_, fresh, uses, rfl, loops, built, same 9 .never⟩

end Interpreter

end Brainfuck
