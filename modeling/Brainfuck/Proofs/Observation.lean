import Brainfuck.Proofs.Runs

/-!
What can be observed of a run: the machines that it passes, each in front of a command that it
executes, and what it leaves behind if it comes to an end. Both are computed with fuel, as the
run itself is. A run that has passed fewer machines than it had fuel for has come to its end.
-/

namespace Brainfuck

def Tape.single : Tape :=
  .blank 1 (by decide) (by decide)

namespace Machine

/-- The machine after a command, whether the command succeeds or fails. -/
def Step.machine : Step → Machine
  | .next machine => machine
  | .failed machine _ => machine

def Step.map (change : Machine → Machine) : Step → Step
  | .next machine => .next (change machine)
  | .failed machine error => .failed (change machine) error

section Commands

/-- Reading takes one answer from the source, if there is one, and keeps the size of the tape. -/
theorem readLine_frame (machine : Machine) :
    ∃ tape pointer, tape.size = machine.tape.size ∧
      machine.readLine.machine =
        { machine with
          tape, pointer
          source := machine.source.map fun source => source.next.2
          asked := machine.asked + machine.source.isSome.toNat } := by
  cases given : machine.source with
  | none =>
      refine ⟨machine.tape, machine.pointer + 1, rfl, ?_⟩
      simp [readLine, given, Step.machine, advance]
  | some source =>
      simp only [readLine, given]
      split
      · exact ⟨_, _, Tape.size_set _ machine.tape, rfl⟩
      · split
        · exact ⟨_, _, Tape.size_set _ machine.tape, rfl⟩
        · exact ⟨_, _, rfl, rfl⟩

theorem closeLoop_frame (limit : Int64) (machine : Machine) :
    ∃ loops pointer, (machine.closeLoop limit).machine =
      { machine with loops, pointer, closes := machine.closes + 1 } := by
  simp only [closeLoop]
  split
  · exact ⟨_, _, rfl⟩
  · split
    · exact ⟨_, _, rfl⟩
    · split <;> exact ⟨_, _, rfl⟩

/-- Closing brackets are counted and nothing else is, and the tape keeps its size. -/
theorem execute_frame (limit : Int64) (command : Command) (machine : Machine) :
    (machine.execute limit command).machine.closes =
        (if command = .loopEnd then machine.closes + 1 else machine.closes) ∧
      (machine.execute limit command).machine.tape.size = machine.tape.size := by
  cases command with
  | increment | decrement | left | right | output | loopStart | ignore =>
      simp [execute, Step.machine, advance]
  | input =>
      obtain ⟨tape, pointer, size, same⟩ := readLine_frame machine
      rw [execute, same]
      exact ⟨rfl, size⟩
  | loopEnd =>
      obtain ⟨loops, pointer, same⟩ := closeLoop_frame limit machine
      rw [execute, same]
      exact ⟨rfl, rfl⟩

/-- A closing bracket looks at the cell and at no other part of the tape or the source, so a
machine that differs only there does the same. -/
theorem closeLoop_carried {machine : Machine} {carry : Machine → Machine} (limit : Int64)
    (tape : Tape) (source : Option LineSource) (cell : tape.get = machine.tape.get)
    (carried : ∀ closes loops pointer, carry { machine with closes, loops, pointer } =
      { machine with closes, loops, pointer, tape, source }) :
    (carry machine).closeLoop limit = (machine.closeLoop limit).map carry := by
  have own : carry machine = { machine with tape, source } :=
    carried machine.closes machine.loops machine.pointer
  rw [own]
  simp only [closeLoop]
  by_cases exceeded : limit ≠ -1 ∧ limit < machine.closes + 1
  · rw [if_pos exceeded, if_pos exceeded, Step.map, carried]
  · rw [if_neg exceeded, if_neg exceeded]
    cases opened : machine.loops with
    | nil =>
        dsimp only
        rw [Step.map, carried]
    | cons innermost outer =>
        dsimp only
        rw [cell]
        by_cases nonzero : machine.tape.get ≠ 0
        · rw [if_pos nonzero, if_pos nonzero, Step.map, carried]
        · rw [if_neg nonzero, if_neg nonzero, Step.map, carried]

end Commands

/-- The machines in front of the commands that a run executes, in order. A command that fails
ends the list, and its machine belongs to it. -/
def visited (commands : List Command) (limit : Int64) : Watch → Nat → Machine → List Machine
  | _, 0, _ => []
  | watch, fuel + 1, machine =>
      match commands[machine.pointer]? with
      | none => []
      | some command =>
          match watch.raised machine.asked with
          | some _ => []
          | none =>
              match machine.execute limit command with
              | .next later => machine :: visited commands limit (watch.pass 1) fuel later
              | .failed _ _ => [machine]

/-- Those machines on the way of a run that are in front of a certain command. -/
def executions (kind : Command) (commands : List Command) (limit : Int64) (watch : Watch)
    (fuel : Nat) (machine : Machine) : List Machine :=
  (visited commands limit watch fuel machine).filter fun passed =>
    commands[passed.pointer]? = some kind

section Paths

variable {commands : List Command} {limit : Int64} {watch : Watch}

theorem moves_or_ends (commands : List Command) (limit : Int64) (watch : Watch)
    (machine : Machine) :
    (∃ command later, Moves commands limit watch machine later command) ∨
      ∃ final halt, Ends commands limit watch machine final halt := by
  cases found : commands[machine.pointer]? with
  | none => exact .inr ⟨machine, machine.atEnd, .complete machine found⟩
  | some command =>
      cases raised : watch.raised machine.asked with
      | some cause => exact .inr ⟨machine, _, .interrupted machine command cause found raised⟩
      | none =>
          cases executed : machine.execute limit command with
          | next later => exact .inl ⟨command, later, found, raised, executed⟩
          | failed later error =>
              exact .inr ⟨later, _, .failed machine later command error found raised executed⟩

theorem moves_frame {before after : Machine} {command : Command}
    (moved : Moves commands limit watch before after command) :
    after.closes = (if command = .loopEnd then before.closes + 1 else before.closes) ∧
      after.tape.size = before.tape.size := by
  have kept := execute_frame limit command before
  rwa [moved.executed] at kept

theorem visited_of_moves {machine later : Machine} {command : Command}
    (moved : Moves commands limit watch machine later command) (fuel : Nat) :
    visited commands limit watch (fuel + 1) machine =
      machine :: visited commands limit (watch.pass 1) fuel later := by
  simp [visited, moved.found, moved.unwatched, moved.executed]

theorem visited_of_failed {machine later : Machine} {command : Command} {error : Error}
    (found : commands[machine.pointer]? = some command)
    (unwatched : watch.raised machine.asked = none)
    (executed : machine.execute limit command = .failed later error) (fuel : Nat) :
    visited commands limit watch (fuel + 1) machine = [machine] := by
  simp [visited, found, unwatched, executed]

theorem visited_of_complete {machine : Machine} (outside : commands[machine.pointer]? = none)
    (fuel : Nat) : visited commands limit watch fuel machine = [] := by
  cases fuel with
  | zero => rfl
  | succ fuel => simp [visited, outside]

theorem visited_of_raised {machine : Machine} {cause : Interruption}
    (raised : watch.raised machine.asked = some cause) (fuel : Nat) :
    visited commands limit watch fuel machine = [] := by
  cases fuel with
  | zero => rfl
  | succ fuel => cases found : commands[machine.pointer]? <;> simp [visited, found, raised]

section Executions

variable {kind command : Command} {machine later : Machine}

theorem executions_of_moves (moved : Moves commands limit watch machine later command)
    (fuel : Nat) :
    executions kind commands limit watch (fuel + 1) machine =
      if command = kind then machine :: executions kind commands limit (watch.pass 1) fuel later
      else executions kind commands limit (watch.pass 1) fuel later := by
  simp only [executions, visited_of_moves moved, List.filter_cons, moved.found,
    Option.some.injEq, decide_eq_true_eq]

theorem executions_of_failed {error : Error} (found : commands[machine.pointer]? = some command)
    (unwatched : watch.raised machine.asked = none)
    (executed : machine.execute limit command = .failed later error) (fuel : Nat) :
    executions kind commands limit watch (fuel + 1) machine =
      if command = kind then [machine] else [] := by
  simp only [executions, visited_of_failed found unwatched executed, List.filter_cons, found,
    Option.some.injEq, decide_eq_true_eq, List.filter_nil]

end Executions

/-- The computed list holds the machines that paths lead to, as long as a command follows. -/
theorem mem_visited_iff {machine passed : Machine} {fuel : Nat} :
    passed ∈ visited commands limit watch fuel machine ↔
      ∃ count command, count < fuel ∧ Steps commands limit watch count machine passed ∧
        commands[passed.pointer]? = some command ∧
        (watch.pass count).raised passed.asked = none := by
  constructor
  · intro member
    induction fuel generalizing machine watch with
    | zero => cases member
    | succ fuel ih =>
        rcases moves_or_ends commands limit watch machine with
          ⟨command, later, moved⟩ | ⟨final, halt, ended⟩
        · rw [visited_of_moves moved] at member
          rcases List.mem_cons.mp member with rfl | member
          · exact ⟨0, command, Nat.succ_pos fuel, .refl passed, moved.found,
              watch.pass_zero.symm ▸ moved.unwatched⟩
          · obtain ⟨count, last, short, path, found⟩ := ih member
            rw [Watch.pass_pass, Nat.add_comm] at found
            exact ⟨count + 1, last, Nat.succ_lt_succ short, .next moved path, found⟩
        · cases ended with
          | complete outside => simp [visited_of_complete outside] at member
          | interrupted command cause found raised => simp [visited_of_raised raised] at member
          | failed _ command error found unwatched executed =>
              rw [visited_of_failed found unwatched executed, List.mem_singleton] at member
              subst member
              exact ⟨0, command, Nat.succ_pos fuel, .refl passed, found,
                watch.pass_zero.symm ▸ unwatched⟩
  · rintro ⟨count, command, short, path, found, unwatched⟩
    induction path generalizing fuel with
    | refl machine =>
        rw [Watch.pass_zero] at unwatched
        obtain ⟨spare, rfl⟩ := Nat.exists_eq_add_of_lt short
        cases executed : machine.execute limit command with
        | next later =>
            rw [visited_of_moves ⟨found, unwatched, executed⟩]
            exact List.mem_cons_self
        | failed later error =>
            rw [visited_of_failed found unwatched executed]
            exact List.mem_cons_self
    | next moved _ ih =>
        obtain ⟨spare, rfl⟩ := Nat.exists_eq_add_of_lt short
        rw [Nat.add_comm, ← Watch.pass_pass] at unwatched
        rw [visited_of_moves moved]
        exact List.mem_cons_of_mem _ (ih (by omega) found unwatched)

/-- A run that has fuel left has ended. -/
theorem run_of_visited_lt {machine : Machine} {fuel : Nat}
    (spare : (visited commands limit watch fuel machine).length < fuel) :
    ∃ final halt, machine.run commands.toArray limit watch fuel = some (final, halt) := by
  induction fuel generalizing machine watch with
  | zero => simp at spare
  | succ fuel ih =>
      rcases moves_or_ends commands limit watch machine with
        ⟨command, later, moved⟩ | ⟨final, halt, ended⟩
      · rw [visited_of_moves moved, List.length_cons] at spare
        rw [run_of_moves moved]
        exact ih (Nat.lt_of_succ_lt_succ spare)
      · exact ⟨final, halt, run_of_ends ended fuel⟩

/-- Two runs side by side. If each machine on the way of the one is carried to a machine of the
other, in front of a command that does the same to it, then so are the ends of the two. -/
theorem run_carried {others : List Command} {carry : Machine → Machine}
    (apart : ∀ machine, (carry machine).pointer = machine.pointer ∧
      (carry machine).loops = machine.loops ∧ (carry machine).asked = machine.asked)
    (length : others.length = commands.length) {fuel : Nat} {machine : Machine}
    (follows : ∀ passed ∈ visited commands limit watch fuel machine,
      ∀ command, commands[passed.pointer]? = some command →
        ∃ other, others[passed.pointer]? = some other ∧
          (carry passed).execute limit other = (passed.execute limit command).map carry) :
    (carry machine).run others.toArray limit watch fuel =
      (machine.run commands.toArray limit watch fuel).map fun (final, halt) =>
        (carry final, halt) := by
  induction fuel generalizing machine watch with
  | zero => rfl
  | succ fuel ih =>
      obtain ⟨pointer, loops, asked⟩ := apart machine
      rcases moves_or_ends commands limit watch machine with
        ⟨command, later, moved⟩ | ⟨final, halt, ended⟩
      · rw [visited_of_moves moved] at follows
        obtain ⟨other, found, executed⟩ := follows machine List.mem_cons_self command moved.found
        have carried : Moves others limit watch (carry machine) (carry later) other := by
          refine ⟨pointer ▸ found, asked ▸ moved.unwatched, ?_⟩
          rw [executed, moved.executed]
          rfl
        rw [run_of_moves moved, run_of_moves carried]
        apply ih
        intro passed member
        exact follows passed (List.mem_cons_of_mem machine member)
      · rw [run_of_ends ended]
        cases ended with
        | complete outside =>
            have same : (carry machine).atEnd = machine.atEnd := by simp only [atEnd, loops]
            rw [Option.map_some, ← same]
            apply run_of_ends (.complete _ _)
            rw [pointer, List.getElem?_eq_none_iff, length]
            exact List.getElem?_eq_none_iff.mp outside
        | interrupted command cause found raised =>
            obtain ⟨inside, _⟩ := List.getElem?_eq_some_iff.mp found
            have there : others[(carry machine).pointer]? = some (others.get ⟨_, length ▸ inside⟩) := by
              rw [pointer]
              exact List.getElem?_eq_getElem (length ▸ inside)
            exact run_of_ends (.interrupted _ _ cause there (asked ▸ raised)) fuel
        | failed _ command error found unwatched executed =>
            rw [visited_of_failed found unwatched executed] at follows
            obtain ⟨other, there, carried⟩ := follows machine List.mem_cons_self command found
            rw [executed] at carried
            exact run_of_ends
              (.failed _ _ other error (pointer ▸ there) (asked ▸ unwatched) carried) fuel

theorem run_of_le {machine final : Machine} {halt : Halt} {fuel more : Nat}
    (enough : fuel ≤ more)
    (halted : machine.run commands.toArray limit watch fuel = some (final, halt)) :
    machine.run commands.toArray limit watch more = some (final, halt) := by
  obtain ⟨count, last, short, path, ended⟩ := run_eq_some_iff.mp halted
  exact run_eq_some_iff.mpr ⟨count, last, Nat.lt_of_lt_of_le short enough, path, ended⟩

end Paths

end Machine

namespace Interpreter

variable {interpreter : Interpreter} {fuel : Nat} {watch : Watch}

/-- What a run leaves behind: its result, and the machine that has come to an end. -/
def yields (fuel : Nat) (watch : Watch) (interpreter : Interpreter) :
    Option (Result × Machine) :=
  (interpreter.run fuel watch).map fun (report, final) => (report.result, final.machine)

def visited (fuel : Nat) (watch : Watch) (interpreter : Interpreter) : List Machine :=
  Machine.visited (commands interpreter.program) interpreter.loopLimit watch fuel
    interpreter.machine.reset

def executions (kind : Command) (fuel : Nat) (watch : Watch) (interpreter : Interpreter) :
    List Machine :=
  Machine.executions kind (commands interpreter.program) interpreter.loopLimit watch fuel
    interpreter.machine.reset

/-- A run comes by this machine in front of a command, and could be stopped there. -/
def StopsAt (interpreter : Interpreter) (machine : Machine) : Prop :=
  ∃ count command,
    Machine.Steps (commands interpreter.program) interpreter.loopLimit .never count
      interpreter.machine.reset machine ∧
    (commands interpreter.program)[machine.pointer]? = some command

/-- A run that nobody stops goes on for ever. -/
def Diverges (interpreter : Interpreter) : Prop :=
  ∀ fuel, interpreter.yields fuel .never = none

/-- A run that nobody stops comes to an end and leaves this behind. -/
def Leaves (interpreter : Interpreter) (result : Result) (final : Machine) : Prop :=
  ∃ fuel, interpreter.yields fuel .never = some (result, final)

theorem stopsAt_iff_visited {machine : Machine} :
    interpreter.StopsAt machine ↔ ∃ fuel, machine ∈ interpreter.visited fuel .never := by
  constructor
  · rintro ⟨count, command, path, found⟩
    exact ⟨count + 1, Machine.mem_visited_iff.mpr
      ⟨count, command, Nat.lt_succ_self count, path, found, rfl⟩⟩
  · rintro ⟨fuel, member⟩
    obtain ⟨count, command, _, path, found, _⟩ := Machine.mem_visited_iff.mp member
    exact ⟨count, command, path, found⟩

theorem yields_eq (interpreter : Interpreter) (fuel : Nat) (watch : Watch) :
    interpreter.yields fuel watch =
      (interpreter.machine.reset.run (commands interpreter.program).toArray interpreter.loopLimit
        watch fuel).map fun (machine, halt) => (outcome machine halt, machine) := by
  obtain ⟨program, limit, machine⟩ := interpreter
  simp only [yields, run]
  cases machine.reset.run (commands program).toArray limit watch fuel <;> rfl

theorem yields_eq_some_iff {result : Result} {final : Machine} :
    interpreter.yields fuel watch = some (result, final) ↔
      ∃ halt, interpreter.machine.reset.run (commands interpreter.program).toArray
        interpreter.loopLimit watch fuel = some (final, halt) ∧ result = outcome final halt := by
  rw [yields_eq, Option.map_eq_some_iff]
  constructor
  · rintro ⟨⟨machine, halt⟩, ran, same⟩
    cases same
    exact ⟨halt, ran, rfl⟩
  · rintro ⟨halt, ran, rfl⟩
    exact ⟨(final, halt), ran, rfl⟩

/-- A run leaves one thing behind, whatever the fuel. -/
theorem Leaves.unique {result other : Result} {final last : Machine}
    (left : interpreter.Leaves result final) (again : interpreter.Leaves other last) :
    result = other ∧ final = last := by
  obtain ⟨fuel, left⟩ := left
  obtain ⟨more, again⟩ := again
  obtain ⟨halt, ran, rfl⟩ := yields_eq_some_iff.mp left
  obtain ⟨ending, ranAgain, rfl⟩ := yields_eq_some_iff.mp again
  have most := Machine.run_of_le (Nat.le_max_left fuel more) ran
  rw [Machine.run_of_le (Nat.le_max_right fuel more) ranAgain] at most
  cases most
  exact ⟨rfl, rfl⟩

theorem diverges_or_leaves (interpreter : Interpreter) :
    interpreter.Diverges ∨ ∃ result final, interpreter.Leaves result final := by
  by_cases endless : interpreter.Diverges
  · exact .inl endless
  · obtain ⟨fuel, halted⟩ := Classical.not_forall.mp endless
    obtain ⟨⟨result, final⟩, left⟩ := Option.ne_none_iff_exists'.mp halted
    exact .inr ⟨result, final, fuel, left⟩

end Interpreter

end Brainfuck
