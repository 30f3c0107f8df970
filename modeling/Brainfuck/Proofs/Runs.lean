import Brainfuck.Interpreter

/-!
Runs of the machine as counted paths. `Moves` is one command that succeeds and `Ends` is the
last thing that a run does. A fuelled run has a result exactly if a path shorter than the fuel
leads to an end, so facts about runs are proved by induction over paths and never over fuel. A
watch moves on with the run, by one command at each step of a path.
-/

namespace Brainfuck.Watch

@[simp]
theorem pass_never (count : Nat) : never.pass count = never :=
  rfl

@[simp]
theorem pass_atLine (count line : Nat) : (atLine line).pass count = atLine line :=
  rfl

theorem pass_zero (watch : Watch) : watch.pass 0 = watch := by
  cases watch <;> rfl

theorem pass_pass (watch : Watch) (first second : Nat) :
    (watch.pass first).pass second = watch.pass (first + second) := by
  cases watch with
  | never | atLine => rfl
  | after count cause => simp only [pass, Nat.sub_sub]

end Brainfuck.Watch

namespace Brainfuck.Machine

/-- One command is executed and the run goes on. -/
structure Moves (commands : List Command) (limit : Int64) (watch : Watch)
    (before after : Machine) (command : Command) : Prop where
  found : commands[before.pointer]? = some command
  unwatched : watch.raised before.asked = none
  executed : before.execute limit command = .next after

inductive Steps (commands : List Command) (limit : Int64) :
    Watch → Nat → Machine → Machine → Prop where
  | refl {watch : Watch} (machine : Machine) : Steps commands limit watch 0 machine machine
  | next {watch : Watch} {count : Nat} {before middle after : Machine} {command : Command}
      (moved : Moves commands limit watch before middle command)
      (tail : Steps commands limit (watch.pass 1) count middle after) :
      Steps commands limit watch (count + 1) before after

/-- How a run stops at a machine, and the machine that it leaves behind. -/
inductive Ends (commands : List Command) (limit : Int64) (watch : Watch) :
    Machine → Machine → Halt → Prop where
  | complete (machine : Machine) (outside : commands[machine.pointer]? = none) :
      Ends commands limit watch machine machine machine.atEnd
  | interrupted (machine : Machine) (command : Command) (cause : Interruption)
      (found : commands[machine.pointer]? = some command)
      (raised : watch.raised machine.asked = some cause) :
      Ends commands limit watch machine machine (.interrupted cause)
  | failed (machine later : Machine) (command : Command) (error : Error)
      (found : commands[machine.pointer]? = some command)
      (unwatched : watch.raised machine.asked = none)
      (executed : machine.execute limit command = .failed later error) :
      Ends commands limit watch machine later (.failed error)

section Paths

variable {commands : List Command} {limit : Int64} {watch : Watch}

theorem Steps.trans {first second : Nat} {before middle after : Machine}
    (head : Steps commands limit watch first before middle)
    (tail : Steps commands limit (watch.pass first) second middle after) :
    Steps commands limit watch (first + second) before after := by
  induction head with
  | refl => simpa [Watch.pass_zero] using tail
  | next moved _ ih =>
      rw [Nat.add_right_comm]
      rw [Nat.add_comm, ← Watch.pass_pass] at tail
      exact .next moved (ih tail)

theorem Steps.single {before after : Machine} {command : Command}
    (moved : Moves commands limit watch before after command) :
    Steps commands limit watch 1 before after :=
  .next moved (.refl after)

/-- What every command keeps is kept along a path. -/
theorem Steps.invariant {Kept : Machine → Prop} {count : Nat} {before after : Machine}
    (path : Steps commands limit watch count before after)
    (step : ∀ {watch machine later command}, Moves commands limit watch machine later command →
      Kept machine → Kept later)
    (initial : Kept before) : Kept after := by
  induction path with
  | refl => exact initial
  | next moved _ ih => exact ih (step moved initial)

theorem run_of_moves {before after : Machine} {command : Command}
    (moved : Moves commands limit watch before after command) (fuel : Nat) :
    before.run commands.toArray limit watch (fuel + 1) =
      after.run commands.toArray limit (watch.pass 1) fuel := by
  simp [run, moved.found, moved.unwatched, moved.executed]

theorem run_of_steps {count : Nat} {before after : Machine}
    (path : Steps commands limit watch count before after) (fuel : Nat) :
    before.run commands.toArray limit watch (fuel + count) =
      after.run commands.toArray limit (watch.pass count) fuel := by
  induction path with
  | refl => rw [Watch.pass_zero, Nat.add_zero]
  | next moved _ ih =>
      rw [← Nat.add_assoc, run_of_moves moved, ih, Watch.pass_pass, Nat.add_comm]

theorem run_of_ends {machine final : Machine} {halt : Halt}
    (ended : Ends commands limit watch machine final halt) (fuel : Nat) :
    machine.run commands.toArray limit watch (fuel + 1) = some (final, halt) := by
  cases ended with
  | complete outside => simp [run, outside]
  | interrupted command cause found raised => simp [run, found, raised]
  | failed _ command error found unwatched executed =>
      simp [run, found, unwatched, executed]

/-- A run with fuel left either moves or ends. -/
theorem run_succ_cases {machine final : Machine} {halt : Halt} {fuel : Nat}
    (halted : machine.run commands.toArray limit watch (fuel + 1) = some (final, halt)) :
    Ends commands limit watch machine final halt ∨
      ∃ command later, Moves commands limit watch machine later command ∧
        later.run commands.toArray limit (watch.pass 1) fuel = some (final, halt) := by
  cases found : commands[machine.pointer]? with
  | none =>
      simp only [run, List.getElem?_toArray, found, Option.some.injEq, Prod.mk.injEq] at halted
      obtain ⟨rfl, rfl⟩ := halted
      exact .inl (.complete machine found)
  | some command =>
      cases raised : watch.raised machine.asked with
      | some cause =>
          simp only [run, List.getElem?_toArray, found, raised, Option.some.injEq,
            Prod.mk.injEq] at halted
          obtain ⟨rfl, rfl⟩ := halted
          exact .inl (.interrupted machine command cause found raised)
      | none =>
          cases executed : machine.execute limit command with
          | next later =>
              simp only [run, List.getElem?_toArray, found, raised, executed] at halted
              exact .inr ⟨command, later, ⟨found, raised, executed⟩, halted⟩
          | failed later error =>
              simp only [run, List.getElem?_toArray, found, raised, executed, Option.some.injEq,
                Prod.mk.injEq] at halted
              obtain ⟨rfl, rfl⟩ := halted
              exact .inl (.failed machine later command error found raised executed)

/-- A run has a result exactly if a path shorter than its fuel leads to that end. -/
theorem run_eq_some_iff {machine final : Machine} {halt : Halt} {fuel : Nat} :
    machine.run commands.toArray limit watch fuel = some (final, halt) ↔
      ∃ count last, count < fuel ∧ Steps commands limit watch count machine last ∧
        Ends commands limit (watch.pass count) last final halt := by
  constructor
  · intro halted
    induction fuel generalizing machine watch with
    | zero => simp [run] at halted
    | succ fuel ih =>
        rcases run_succ_cases halted with ended | ⟨command, later, moved, rest⟩
        · exact ⟨0, machine, Nat.succ_pos fuel, .refl machine, watch.pass_zero.symm ▸ ended⟩
        · obtain ⟨count, last, short, path, ended⟩ := ih rest
          rw [Watch.pass_pass, Nat.add_comm] at ended
          exact ⟨count + 1, last, Nat.succ_lt_succ short, .next moved path, ended⟩
  · rintro ⟨count, last, short, path, ended⟩
    -- One command's worth of fuel is needed at the end to find out that the run has ended.
    obtain ⟨spare, rfl⟩ : ∃ spare, fuel = spare + 1 + count := ⟨fuel - count - 1, by omega⟩
    rw [run_of_steps path]
    exact run_of_ends ended spare

theorem Steps.unwatched {count : Nat} {before after : Machine}
    (path : Steps commands limit watch count before after) :
    Steps commands limit .never count before after := by
  induction path with
  | refl machine => exact .refl machine
  | next moved _ ih => exact .next ⟨moved.found, rfl, moved.executed⟩ ih

/-- A run that no request has stopped does not depend on the watch. -/
theorem run_unwatched {machine final : Machine} {halt : Halt} {fuel : Nat}
    (halted : machine.run commands.toArray limit watch fuel = some (final, halt))
    (calm : ∀ cause, halt ≠ .interrupted cause) :
    machine.run commands.toArray limit .never fuel = some (final, halt) := by
  obtain ⟨count, last, short, path, ended⟩ := run_eq_some_iff.mp halted
  refine run_eq_some_iff.mpr ⟨count, last, short, path.unwatched, ?_⟩
  cases ended with
  | complete outside => exact .complete _ outside
  | interrupted _ cause _ _ => exact absurd rfl (calm cause)
  | failed _ command error found _ executed =>
      exact .failed last final command error found rfl executed

/-- A path out of a machine that can move begins with that move. -/
theorem steps_peel {count : Nat} {machine next last final : Machine} {command : Command}
    {halt : Halt} (moved : Moves commands limit watch machine next command)
    (path : Steps commands limit watch count machine last)
    (ended : Ends commands limit (watch.pass count) last final halt) :
    ∃ rest, count = rest + 1 ∧ Steps commands limit (watch.pass 1) rest next last := by
  cases path with
  | refl =>
      rw [Watch.pass_zero] at ended
      cases ended with
      | complete outside => cases moved.found.symm.trans outside
      | interrupted _ _ _ raised => cases moved.unwatched.symm.trans raised
      | failed _ _ _ found _ executed =>
          cases moved.found.symm.trans found
          cases moved.executed.symm.trans executed
  | next other tail =>
      cases moved.found.symm.trans other.found
      cases moved.executed.symm.trans other.executed
      exact ⟨_, rfl, tail⟩

theorem steps_of_failed {count : Nat} {machine later last final : Machine} {command : Command}
    {halt : Halt} {error : Error} (found : commands[machine.pointer]? = some command)
    (unwatched : watch.raised machine.asked = none)
    (executed : machine.execute limit command = .failed later error)
    (path : Steps commands limit watch count machine last)
    (ended : Ends commands limit (watch.pass count) last final halt) :
    final = later ∧ halt = .failed error := by
  cases path with
  | refl =>
      rw [Watch.pass_zero] at ended
      cases ended with
      | complete outside => cases found.symm.trans outside
      | interrupted _ _ _ raised => cases unwatched.symm.trans raised
      | failed _ _ _ there _ same =>
          cases found.symm.trans there
          cases executed.symm.trans same
          exact ⟨rfl, rfl⟩
  | next moved _ =>
      cases found.symm.trans moved.found
      cases executed.symm.trans moved.executed

theorem steps_of_complete {count : Nat} {machine last final : Machine} {halt : Halt}
    (outside : commands[machine.pointer]? = none)
    (path : Steps commands limit watch count machine last)
    (ended : Ends commands limit (watch.pass count) last final halt) :
    final = machine ∧ halt = machine.atEnd := by
  cases path with
  | refl =>
      cases ended with
      | complete _ => exact ⟨rfl, rfl⟩
      | interrupted _ _ found _ => cases outside.symm.trans found
      | failed _ _ _ found _ _ => cases outside.symm.trans found
  | next moved _ => cases outside.symm.trans moved.found

end Paths

section Commands

variable {limit : Int64} {machine later : Machine} {command : Command}

/-- Where a successful command leads. Only brackets touch the stack of open loops, and only a
closing one can lead anywhere but to the next command. -/
theorem execute_next_control (executed : machine.execute limit command = .next later) :
    (command = .loopStart ∧ later.loops = machine.pointer :: machine.loops ∧
        later.pointer = machine.pointer + 1) ∨
      (command = .loopEnd ∧ ∃ innermost outer, machine.loops = innermost :: outer ∧
        (later.loops = machine.loops ∧ later.pointer = innermost + 1 ∨
          later.loops = outer ∧ later.pointer = machine.pointer + 1)) ∨
      (command ≠ .loopStart ∧ command ≠ .loopEnd ∧ later.loops = machine.loops ∧
        later.pointer = machine.pointer + 1) := by
  cases command with
  | loopStart =>
      cases executed
      exact .inl ⟨rfl, rfl, rfl⟩
  | loopEnd =>
      refine .inr (.inl ⟨rfl, ?_⟩)
      simp only [execute, closeLoop] at executed
      split at executed
      · cases executed
      · cases opened : machine.loops with
        | nil => simp [opened] at executed
        | cons innermost outer =>
            simp only [opened] at executed
            split at executed
            · cases executed
              exact ⟨innermost, outer, rfl, .inl ⟨rfl, rfl⟩⟩
            · cases executed
              exact ⟨innermost, outer, rfl, .inr ⟨rfl, rfl⟩⟩
  | input =>
      refine .inr (.inr ⟨nofun, nofun, ?_⟩)
      simp only [execute, readLine] at executed
      split at executed
      · cases executed
        exact ⟨rfl, rfl⟩
      · split at executed
        · cases executed
          exact ⟨rfl, rfl⟩
        · split at executed
          · cases executed
            exact ⟨rfl, rfl⟩
          · cases executed
  | increment | decrement | left | right | output | ignore =>
      cases executed
      exact .inr (.inr ⟨nofun, nofun, rfl, rfl⟩)

/-- Why a command can fail. -/
theorem execute_failed_cases {error : Error}
    (executed : machine.execute limit command = .failed later error) :
    (command = .input ∧ ∃ source cause, machine.source = some source ∧
        source.next.1.error = some cause ∧ cause.is .endOfInput = false ∧
        error = .labelled (utf8 "reading input") cause) ∨
      (command = .loopEnd ∧ limit ≠ -1 ∧ limit < machine.closes + 1 ∧
        error = .fault (.loopLimit limit.toInt)) ∨
      (command = .loopEnd ∧ machine.loops = [] ∧
        error = .fault (.unmatchedClose machine.pointer)) := by
  cases command with
  | input =>
      refine .inl ⟨rfl, ?_⟩
      simp only [execute, readLine] at executed
      cases given : machine.source with
      | none => simp [given] at executed
      | some source =>
          simp only [given] at executed
          cases failed : source.next.1.error with
          | none => simp [failed] at executed
          | some cause =>
              simp only [failed] at executed
              split at executed
              · cases executed
              · cases executed
                rename_i other
                exact ⟨source, cause, rfl, failed, by simpa using other, rfl⟩
  | loopEnd =>
      refine .inr ?_
      simp only [execute, closeLoop] at executed
      split at executed
      · rename_i exceeded
        cases executed
        exact .inl ⟨rfl, exceeded.1, exceeded.2, rfl⟩
      · cases opened : machine.loops with
        | nil =>
            simp only [opened] at executed
            cases executed
            exact .inr ⟨rfl, rfl, rfl⟩
        | cons innermost outer =>
            simp only [opened] at executed
            split at executed <;> cases executed
  | increment | decrement | left | right | output | loopStart | ignore => cases executed

/-- A command leaves the source alone or takes one answer from it. -/
theorem execute_next_source (executed : machine.execute limit command = .next later) :
    later.source = machine.source ∨
      ∃ source, machine.source = some source ∧ later.source = some source.next.2 := by
  cases command with
  | input =>
      simp only [execute, readLine] at executed
      cases given : machine.source with
      | none =>
          simp only [given] at executed
          cases executed
          exact .inl given
      | some source =>
          simp only [given] at executed
          refine .inr ⟨source, rfl, ?_⟩
          split at executed
          · cases executed
            rfl
          · split at executed
            · cases executed
              rfl
            · cases executed
  | loopEnd =>
      simp only [execute, closeLoop] at executed
      split at executed
      · cases executed
      · split at executed
        · cases executed
        · split at executed <;>
            · cases executed
              exact .inl rfl
  | increment | decrement | left | right | output | loopStart | ignore =>
      cases executed
      exact .inl rfl

end Commands

end Brainfuck.Machine

namespace Brainfuck

theorem Limits.check_eq_none_iff (limits : Limits) :
    limits.check = none ↔ 1 ≤ limits.tapeSize.toInt ∧ -1 ≤ limits.loopLimit.toInt := by
  have tape : limits.tapeSize < 1 ↔ limits.tapeSize.toInt < 1 := Int64.lt_iff_toInt_lt
  have loop : limits.loopLimit < unbounded ↔ limits.loopLimit.toInt < -1 := Int64.lt_iff_toInt_lt
  simp only [Limits.check, tape, loop]
  split
  · simp only [reduceCtorEq, false_iff]
    omega
  · split
    · simp only [reduceCtorEq, false_iff]
      omega
    · simp only [true_iff]
      omega

/-- A size of at least 1 is the size of a tape of zeros. -/
theorem Tape.ofSize_of_pos {size : Int64} (positive : 1 ≤ size.toInt) :
    ∃ tape, Tape.ofSize size = .ok tape ∧ tape.size = size.toInt.toNat := by
  simp only [Tape.ofSize, positive, ↓reduceDIte]
  exact ⟨_, rfl, Array.size_replicate⟩

/-- The error that a run ends with, if it fails. -/
def Machine.Halt.error? : Machine.Halt → Option Error
  | .finished => none
  | .failed error => some error
  | .unclosed position => some (.fault (.unmatchedOpen position))
  | .interrupted cause => some (.interrupted cause)

namespace Interpreter

theorem outcome_eq (machine : Machine) (halt : Machine.Halt) :
    outcome machine halt =
      halt.error?.elim ⟨machine.output, none⟩ fun error => ⟨[], some error⟩ := by
  cases halt <;> rfl

theorem build_of_fault {limits : Limits} {fault : Fault} (checked : limits.check = some fault)
    (program : Bytes) (source : Option LineSource) :
    build program limits source = .error fault := by
  simp only [build, checked]
  rfl

/-- Limits that pass the check are enough to build an interpreter. -/
theorem build_of_check {limits : Limits} (checked : limits.check = none)
    (program : Bytes) (source : Option LineSource) :
    ∃ tape, build program limits source =
      .ok ⟨program, limits.loopLimit, .start tape source⟩ := by
  obtain ⟨tape, made, _⟩ :=
    Tape.ofSize_of_pos ((Limits.check_eq_none_iff limits).mp checked).1
  refine ⟨tape, ?_⟩
  simp only [build, checked, made]
  rfl

/-- A run of an interpreter is a run of its machine from the start. -/
theorem run_eq_some_iff {interpreter final : Interpreter} {fuel : Nat} {watch : Watch}
    {report : Report} :
    interpreter.run fuel watch = some (report, final) ↔
      ∃ machine halt,
        interpreter.machine.reset.run (commands interpreter.program).toArray
          interpreter.loopLimit watch fuel = some (machine, halt) ∧
        final = { interpreter with machine } ∧
        report = ⟨final.openingEntry :: final.closingEntry halt, outcome machine halt⟩ := by
  obtain ⟨program, limit, machine⟩ := interpreter
  simp only [run]
  cases machine.reset.run (commands program).toArray limit watch fuel with
  | none => simp
  | some reached =>
      obtain ⟨machine, halt⟩ := reached
      simp only [Option.some.injEq, Prod.mk.injEq]
      constructor
      · rintro ⟨rfl, rfl⟩
        exact ⟨machine, halt, ⟨rfl, rfl⟩, rfl, rfl⟩
      · rintro ⟨_, _, ⟨rfl, rfl⟩, rfl, rfl⟩
        exact ⟨rfl, rfl⟩

end Interpreter

theorem execute_of_fault {limits : Limits} {fault : Fault} (checked : limits.check = some fault)
    (fuel : Nat) (watch : Watch) (source : Bytes) (input : Option LineSource) :
    execute fuel watch source input limits = some ⟨[], some (.fault fault)⟩ := by
  unfold execute
  rw [Interpreter.build_of_fault checked]

/-- Executing a source within limits is running its commands from the start. -/
theorem execute_of_check {limits : Limits} (checked : limits.check = none) (source : Bytes)
    (input : Option LineSource) :
    ∃ tape, ∀ fuel watch, execute fuel watch source input limits =
      ((Machine.start tape input).run (commands source).toArray limits.loopLimit watch fuel).map
        fun (machine, halt) => Interpreter.outcome machine halt := by
  obtain ⟨tape, built⟩ := Interpreter.build_of_check checked source input
  refine ⟨tape.reset, fun fuel watch => ?_⟩
  unfold execute
  rw [built]
  change Option.map _ (Interpreter.run fuel watch _) =
    Option.map _ ((Machine.start tape input).reset.run _ _ watch fuel)
  simp only [Interpreter.run]
  cases (Machine.start tape input).reset.run (commands source).toArray limits.loopLimit watch
    fuel <;> rfl

/-- An execution that succeeds under a watch succeeds as well without it. -/
theorem execute_unwatched {fuel : Nat} {watch : Watch} {source : Bytes}
    {input : Option LineSource} {limits : Limits} {output : Bytes}
    (succeeded : execute fuel watch source input limits = some ⟨output, none⟩) :
    execute fuel .never source input limits = some ⟨output, none⟩ := by
  cases checked : limits.check with
  | some fault =>
      rw [execute_of_fault checked] at succeeded
      cases succeeded
  | none =>
      obtain ⟨tape, same⟩ := execute_of_check checked source input
      rw [same, Option.map_eq_some_iff] at succeeded ⊢
      obtain ⟨⟨machine, halt⟩, ran, given⟩ := succeeded
      refine ⟨(machine, halt), Machine.run_unwatched ran ?_, given⟩
      rintro cause rfl
      cases given

end Brainfuck
