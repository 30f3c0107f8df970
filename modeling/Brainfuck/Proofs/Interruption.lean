import Brainfuck.Proofs.Observation

/-!
Requests to stop. A run looks for one before each command, so a request is obeyed in front of the
next command, if there is one, whether it comes at any time or while a line is delivered. Up to
there the run is the one that nobody stops, step for step, and it has taken from its source what
that run has.
-/

namespace Brainfuck

namespace Machine

section Lines

/-- A line is asked for by reading with a source, and by nothing else. -/
def asking (command : Command) (machine : Machine) : Bool :=
  command = .input && machine.source.isSome

theorem execute_asked (limit : Int64) (command : Command) (machine : Machine) :
    (machine.execute limit command).machine.asked =
        machine.asked + (asking command machine).toNat ∧
      (machine.execute limit command).machine.source =
        if asking command machine then machine.source.map fun source => source.next.2
        else machine.source := by
  cases command with
  | increment | decrement | left | right | output | loopStart | ignore =>
      simp [execute, Step.machine, advance, asking]
  | input =>
      obtain ⟨tape, pointer, _, same⟩ := readLine_frame machine
      rw [execute, same]
      cases given : machine.source <;> simp [asking, given]
  | loopEnd =>
      obtain ⟨loops, pointer, same⟩ := closeLoop_frame limit machine
      rw [execute, same]
      simp [asking]

variable {commands : List Command} {limit : Int64} {watch : Watch}

theorem moves_asked {before after : Machine} {command : Command}
    (moved : Moves commands limit watch before after command) :
    after.asked = before.asked + (asking command before).toNat ∧
      after.source =
        if asking command before then before.source.map fun source => source.next.2
        else before.source := by
  have read := execute_asked limit command before
  rwa [moved.executed] at read

/-- A machine has taken from the source of the run as many answers as it has asked for. -/
def Supplied (input : Option LineSource) (machine : Machine) : Prop :=
  machine.source = input.map fun source => source.drop machine.asked

theorem execute_supplied {input : Option LineSource} {machine : Machine}
    (supplied : Supplied input machine) (command : Command) :
    Supplied input (machine.execute limit command).machine := by
  obtain ⟨asked, source⟩ := execute_asked limit command machine
  unfold Supplied at supplied ⊢
  cases asks : asking command machine with
  | false => simpa [asks, asked] using source.trans (by simpa [asks] using supplied)
  | true =>
      rw [source, asked, asks, supplied]
      simp [LineSource.drop_succ, Function.comp_def]

theorem moves_supplied {input : Option LineSource} {before after : Machine} {command : Command}
    (moved : Moves commands limit watch before after command)
    (supplied : Supplied input before) : Supplied input after := by
  have kept : Supplied input (before.execute limit command).machine :=
    execute_supplied supplied command
  rwa [moved.executed] at kept

/-- The machines on the way of a run that are about to ask for a line, in order. -/
def requests (commands : List Command) (limit : Int64) (watch : Watch) (fuel : Nat)
    (machine : Machine) : List Machine :=
  (visited commands limit watch fuel machine).filter fun passed =>
    commands[passed.pointer]?.any fun command => asking command passed

theorem requests_of_moves {machine later : Machine} {command : Command}
    (moved : Moves commands limit watch machine later command) (fuel : Nat) :
    requests commands limit watch (fuel + 1) machine =
      if asking command machine then machine :: requests commands limit (watch.pass 1) fuel later
      else requests commands limit (watch.pass 1) fuel later := by
  simp only [requests, visited_of_moves moved, List.filter_cons, moved.found, Option.any_some]

theorem requests_of_failed {machine later : Machine} {command : Command} {error : Error}
    (found : commands[machine.pointer]? = some command)
    (unwatched : watch.raised machine.asked = none)
    (executed : machine.execute limit command = .failed later error) (fuel : Nat) :
    requests commands limit watch (fuel + 1) machine =
      if asking command machine then [machine] else [] := by
  simp only [requests, visited_of_failed found unwatched executed, List.filter_cons, found,
    Option.any_some, List.filter_nil]

end Lines

section Watched

variable {commands : List Command} {limit : Int64} {line fuel : Nat}

theorem raised_of_lt {asked : Nat} (before : asked < line) :
    (Watch.atLine line).raised asked = none :=
  if_neg (Nat.not_le.mpr before)

theorem raised_of_le {asked : Nat} (due : line ≤ asked) :
    (Watch.atLine line).raised asked = some .canceled :=
  if_pos due

/-- A run that does not come to the line is not disturbed. -/
theorem run_of_few {machine : Machine}
    (few : machine.asked + (requests commands limit .never fuel machine).length < line) :
    machine.run commands.toArray limit (.atLine line) fuel =
      machine.run commands.toArray limit .never fuel := by
  induction fuel generalizing machine with
  | zero => rfl
  | succ fuel ih =>
      have calm := raised_of_lt (Nat.lt_of_le_of_lt (Nat.le_add_right _ _) few)
      rcases moves_or_ends commands limit .never machine with
        ⟨command, later, moved⟩ | ⟨final, halt, ended⟩
      · rw [run_of_moves moved, run_of_moves ⟨moved.found, calm, moved.executed⟩]
        apply ih
        rw [(moves_asked moved).1]
        rw [requests_of_moves moved] at few
        cases asks : asking command machine with
        | false => simpa [asks] using few
        | true =>
            simp only [asks, ↓reduceIte, List.length_cons, Bool.toNat_true, Watch.pass_never]
              at few ⊢
            omega
      · rw [run_of_ends ended]
        cases ended with
        | complete outside => exact run_of_ends (.complete machine outside) fuel
        | interrupted command cause found raised => cases raised
        | failed _ command error found unwatched executed =>
            exact run_of_ends (.failed machine final command error found calm executed) fuel

/-- The way to the machine that asks for the line. The run comes there before it is stopped. -/
theorem steps_to_request {machine last : Machine} {index : Nat}
    (reached : (requests commands limit .never fuel machine)[index]? = some last)
    (counted : machine.asked + index + 1 = line) :
    ∃ count spare, fuel = spare + 1 + count ∧
      Steps commands limit (.atLine line) count machine last ∧
      commands[last.pointer]? = some .input ∧ asking .input last ∧ last.asked + 1 = line := by
  induction fuel generalizing machine index with
  | zero => simp [requests, visited] at reached
  | succ fuel ih =>
      have calm : (Watch.atLine line).raised machine.asked = none := raised_of_lt (by omega)
      rcases moves_or_ends commands limit .never machine with
        ⟨command, later, moved⟩ | ⟨final, halt, ended⟩
      · have watched : Moves commands limit (.atLine line) machine later command :=
          ⟨moved.found, calm, moved.executed⟩
        rw [requests_of_moves moved] at reached
        have asked := (moves_asked moved).1
        cases asks : asking command machine with
        | false =>
            simp only [asks, Bool.false_eq_true, ↓reduceIte] at reached
            simp only [asks, Bool.toNat_false, Nat.add_zero] at asked
            obtain ⟨count, spare, rfl, path, rest⟩ := ih reached (by omega)
            exact ⟨count + 1, spare, rfl, .next watched path, rest⟩
        | true =>
            simp only [asks, ↓reduceIte] at reached
            simp only [asks, Bool.toNat_true] at asked
            cases index with
            | zero =>
                cases reached
                obtain ⟨rfl, _⟩ : command = .input ∧ _ := by simpa [asking] using asks
                exact ⟨0, fuel, rfl, .refl last, moved.found, asks, counted⟩
            | succ index =>
                obtain ⟨count, spare, rfl, path, rest⟩ := ih reached (by omega)
                exact ⟨count + 1, spare, rfl, .next watched path, rest⟩
      · cases ended with
        | complete outside => simp [requests, visited_of_complete outside] at reached
        | interrupted command cause found raised => cases raised
        | failed _ command error found unwatched executed =>
            rw [requests_of_failed found unwatched executed] at reached
            cases asks : asking command machine with
            | false => simp [asks] at reached
            | true =>
                simp only [asks, ↓reduceIte, List.getElem?_singleton] at reached
                split at reached
                · subst index
                  cases reached
                  obtain ⟨rfl, _⟩ : command = .input ∧ _ := by simpa [asking] using asks
                  exact ⟨0, fuel, rfl, .refl last, found, asks, counted⟩
                · cases reached

/-- A run that has executed no more commands when it ends is not disturbed. -/
theorem run_of_short {machine : Machine} {count : Nat}
    (short : (visited commands limit .never fuel machine).length ≤ count) (cause : Interruption) :
    machine.run commands.toArray limit (.after count cause) fuel =
      machine.run commands.toArray limit .never fuel := by
  induction fuel generalizing machine count with
  | zero => rfl
  | succ fuel ih =>
      rcases moves_or_ends commands limit .never machine with
        ⟨command, later, moved⟩ | ⟨final, halt, ended⟩
      · rw [visited_of_moves moved, List.length_cons] at short
        obtain ⟨left, rfl⟩ : ∃ left, count = left + 1 := ⟨count - 1, by omega⟩
        rw [run_of_moves moved, run_of_moves ⟨moved.found, rfl, moved.executed⟩]
        exact ih (Nat.le_of_succ_le_succ short)
      · rw [run_of_ends ended]
        cases ended with
        | complete outside => exact run_of_ends (.complete machine outside) fuel
        | interrupted command _ found raised => cases raised
        | failed _ command error found unwatched executed =>
            rw [visited_of_failed found unwatched executed, List.length_singleton] at short
            obtain ⟨left, rfl⟩ : ∃ left, count = left + 1 := ⟨count - 1, by omega⟩
            exact run_of_ends (.failed machine final command error found rfl executed) fuel

/-- Any other run stops in front of the command that comes next. -/
theorem run_of_due {machine last : Machine} {count : Nat}
    (reached : (visited commands limit .never fuel machine)[count]? = some last)
    (cause : Interruption) :
    machine.run commands.toArray limit (.after count cause) fuel =
      some (last, .interrupted cause) := by
  induction fuel generalizing machine count with
  | zero => cases reached
  | succ fuel ih =>
      rcases moves_or_ends commands limit .never machine with
        ⟨command, later, moved⟩ | ⟨final, halt, ended⟩
      · rw [visited_of_moves moved] at reached
        cases count with
        | zero =>
            cases reached
            exact run_of_ends (.interrupted last command cause moved.found rfl) fuel
        | succ count =>
            rw [run_of_moves ⟨moved.found, rfl, moved.executed⟩]
            exact ih reached
      · cases ended with
        | complete outside => simp [visited_of_complete outside] at reached
        | interrupted command _ found raised => cases raised
        | failed _ command error found unwatched executed =>
            rw [visited_of_failed found unwatched executed] at reached
            cases count with
            | zero =>
                cases reached
                exact run_of_ends (.interrupted last command cause found rfl) fuel
            | succ count => cases reached

theorem run_of_outside {machine : Machine} (outside : commands[machine.pointer]? = none)
    (watch other : Watch) :
    machine.run commands.toArray limit watch fuel =
      machine.run commands.toArray limit other fuel := by
  cases fuel with
  | zero => rfl
  | succ fuel => simp [run, outside]

/-- A line that was the last thing to do can no longer stop the run. -/
theorem run_of_last_request {machine last : Machine} {index : Nat}
    (reached : (requests commands limit .never fuel machine)[index]? = some last)
    (counted : machine.asked + index + 1 = line)
    (ends : ∀ later, last.execute limit .input = .next later →
      commands[later.pointer]? = none) :
    machine.run commands.toArray limit (.atLine line) fuel =
      machine.run commands.toArray limit .never fuel := by
  obtain ⟨count, spare, rfl, path, found, _, asked⟩ := steps_to_request reached counted
  have calm : (Watch.atLine line).raised last.asked = none := raised_of_lt (by omega)
  rw [run_of_steps path, run_of_steps path.unwatched, Watch.pass_atLine, Watch.pass_never]
  cases executed : last.execute limit .input with
  | failed later error =>
      rw [run_of_ends (.failed last later .input error found calm executed),
        run_of_ends (.failed last later .input error found rfl executed)]
  | next later =>
      rw [run_of_moves ⟨found, calm, executed⟩, run_of_moves ⟨found, rfl, executed⟩]
      exact run_of_outside (ends later executed) _ _

/-- Any other run stops behind the line, where the run that nobody stops passes as well. -/
theorem run_of_request {machine last later : Machine} {index : Nat} {command : Command}
    (reached : (requests commands limit .never fuel machine)[index]? = some last)
    (counted : machine.asked + index + 1 = line)
    (executed : last.execute limit .input = .next later)
    (follows : commands[later.pointer]? = some command) :
    machine.run commands.toArray limit (.atLine line) (fuel + 1) =
        some (later, .interrupted .canceled) ∧
      later.asked = line ∧ ∃ count, Steps commands limit .never count machine later := by
  obtain ⟨count, spare, rfl, path, found, asks, asked⟩ := steps_to_request reached counted
  have moved : Moves commands limit (.atLine line) last later .input :=
    ⟨found, raised_of_lt (by omega), executed⟩
  have due : later.asked = line := by
    rw [(moves_asked moved).1, asks]
    exact asked
  constructor
  · rw [Nat.add_right_comm, run_of_steps path, Watch.pass_atLine, run_of_moves moved]
    exact run_of_ends (.interrupted later command _ follows (raised_of_le (by omega))) spare
  · exact ⟨due, _, path.unwatched.trans (.single ⟨found, rfl, executed⟩)⟩

end Watched

end Machine

namespace Interpreter

variable {interpreter : Interpreter} {fuel line : Nat}

/-- The machines on the way of a run that nobody stops that are about to ask for a line. -/
def requests (fuel : Nat) (interpreter : Interpreter) : List Machine :=
  Machine.requests (commands interpreter.program) interpreter.loopLimit .never fuel
    interpreter.machine.reset

theorem run_of_machine_run {watch other : Watch}
    (same : interpreter.machine.reset.run (commands interpreter.program).toArray
        interpreter.loopLimit watch fuel =
      interpreter.machine.reset.run (commands interpreter.program).toArray
        interpreter.loopLimit other fuel) :
    interpreter.run fuel watch = interpreter.run fuel other := by
  simp only [run, same]

theorem reset_supplied (interpreter : Interpreter) :
    interpreter.machine.reset.Supplied interpreter.machine.source := by
  simp [Machine.Supplied, Machine.reset, Machine.start, LineSource.drop]

theorem input_pointer {limit : Int64} {last later : Machine}
    (executed : last.execute limit .input = .next later) : later.pointer = last.pointer + 1 := by
  rcases Machine.execute_next_control executed with ⟨kind, _⟩ | ⟨kind, _⟩ | ⟨_, _, _, pointer⟩
  · cases kind
  · cases kind
  · exact pointer

theorem commands_length (source : Bytes) : (commands source).length = source.length :=
  List.length_map _

/-- Reading the line ends the run: it fails, or it was the last command of the program. -/
def ReadsLast (interpreter : Interpreter) (last : Machine) : Prop :=
  (∃ later error, last.execute interpreter.loopLimit .input = .failed later error) ∨
    last.pointer + 1 = interpreter.program.length

theorem reset_counted (interpreter : Interpreter) (line : Nat) :
    interpreter.machine.reset.asked + line + 1 = line + 1 :=
  congrArg (· + 1) (Nat.zero_add line)

theorem run_of_reads_last {last : Machine}
    (reached : (interpreter.requests fuel)[line]? = some last)
    (final : interpreter.ReadsLast last) :
    interpreter.run fuel (.atLine (line + 1)) = interpreter.run fuel .never := by
  apply run_of_machine_run
  apply Machine.run_of_last_request reached (reset_counted interpreter line)
  intro later executed
  rcases final with ⟨other, error, failed⟩ | outside
  · cases failed.symm.trans executed
  · apply List.getElem?_eq_none
    apply Nat.le_of_eq
    rw [commands_length, input_pointer executed, outside]

theorem run_of_reads_on {last : Machine}
    (reached : (interpreter.requests fuel)[line]? = some last)
    (goes : ¬ interpreter.ReadsLast last) :
    ∃ after report, last.execute interpreter.loopLimit .input = .next after ∧
      interpreter.StopsAt after ∧
      interpreter.run (fuel + 1) (.atLine (line + 1)) =
        some (report, { interpreter with machine := after }) ∧
      report.result = ⟨[], some (.interrupted .canceled)⟩ ∧ after.asked = line + 1 ∧
      after.source = interpreter.machine.source.map fun source => source.drop (line + 1) := by
  have counted := reset_counted interpreter line
  obtain ⟨_, _, _, _, found, _⟩ := Machine.steps_to_request reached counted
  cases executed : last.execute interpreter.loopLimit .input with
  | failed later error => exact absurd (.inl ⟨later, error, executed⟩) goes
  | next after =>
      obtain ⟨inside, _⟩ := List.getElem?_eq_some_iff.mp found
      have more : last.pointer + 1 ≠ interpreter.program.length := fun same => goes (.inr same)
      have further : after.pointer < (commands interpreter.program).length := by
        rw [input_pointer executed]
        rw [commands_length] at inside ⊢
        omega
      have follows := List.getElem?_eq_getElem further
      obtain ⟨ran, asked, count, path⟩ :=
        Machine.run_of_request reached counted executed follows
      have supplied := path.invariant Machine.moves_supplied (reset_supplied interpreter)
      rw [Machine.Supplied, asked] at supplied
      exact ⟨after, _, rfl, ⟨count, _, path, follows⟩,
        run_eq_some_iff.mpr ⟨after, _, ran, rfl, rfl⟩, rfl, asked, supplied⟩

theorem cellAt_reset (tape : Tape) (index : Int64) : tape.reset.cellAt index = 0 := by
  simp [Tape.reset, Tape.blank, Tape.cellAt, Array.getD]

theorem run_of_already (more : interpreter.program ≠ []) (cause : Interruption) (fuel : Nat) :
    ∃ report, interpreter.run (fuel + 1) (.already cause) = some (report, interpreter.reset) ∧
      report.result = ⟨[], some (.interrupted cause)⟩ := by
  obtain ⟨byte, rest, same⟩ := List.exists_cons_of_ne_nil more
  have first : (commands interpreter.program)[interpreter.machine.reset.pointer]? =
      some (Command.ofByte byte) := by
    rw [same]
    rfl
  exact ⟨_, run_eq_some_iff.mpr ⟨_, _,
    Machine.run_of_ends (.interrupted _ _ cause first rfl) fuel, rfl, rfl⟩, rfl⟩

theorem run_of_empty (empty : interpreter.program = []) (watch : Watch) (fuel : Nat) :
    ∃ report, interpreter.run (fuel + 1) watch = some (report, interpreter.reset) ∧
      report.result = ⟨[], none⟩ := by
  have outside : (commands interpreter.program)[interpreter.machine.reset.pointer]? = none := by
    rw [empty]
    rfl
  exact ⟨_, run_eq_some_iff.mpr ⟨_, _,
    Machine.run_of_ends (.complete _ outside) fuel, rfl, rfl⟩, rfl⟩

theorem run_of_visited {last : Machine} {count : Nat}
    (reached : (interpreter.visited fuel .never)[count]? = some last) (cause : Interruption) :
    ∃ report, interpreter.run fuel (.after count cause) =
        some (report, { interpreter with machine := last }) ∧
      report.result = ⟨[], some (.interrupted cause)⟩ :=
  ⟨_, run_eq_some_iff.mpr ⟨last, _, Machine.run_of_due reached cause, rfl, rfl⟩, rfl⟩

/-- Cancellation cuts a run off at one point and changes nothing before it. A run that does not
ask for the line is the run that nobody stops, and so is one that has nothing left to do after
it. Any other run stops right behind the line, where the run that nobody stops passes in the same
state, and has taken no more lines. The same holds of a request that comes at any command. One
that was there before the run stops every program but the empty one before it has done
anything. -/
theorem cancellation_cuts_run (interpreter : Interpreter) (line : Nat) :
    (∀ fuel, (interpreter.requests fuel).length < line + 1 →
      interpreter.run fuel (.atLine (line + 1)) = interpreter.run fuel .never) ∧
    (∀ fuel last, (interpreter.requests fuel)[line]? = some last →
      (interpreter.ReadsLast last →
        interpreter.run fuel (.atLine (line + 1)) = interpreter.run fuel .never) ∧
      (¬ interpreter.ReadsLast last → ∃ after report,
        last.execute interpreter.loopLimit .input = .next after ∧ interpreter.StopsAt after ∧
        interpreter.run (fuel + 1) (.atLine (line + 1)) =
          some (report, { interpreter with machine := after }) ∧
        report.result = ⟨[], some (.interrupted .canceled)⟩ ∧ after.asked = line + 1 ∧
        after.source = interpreter.machine.source.map fun source => source.drop (line + 1))) ∧
    (∀ count cause fuel,
      ((interpreter.visited fuel .never).length ≤ count →
        interpreter.run fuel (.after count cause) = interpreter.run fuel .never) ∧
      ∀ last, (interpreter.visited fuel .never)[count]? = some last → ∃ report,
        interpreter.run fuel (.after count cause) =
          some (report, { interpreter with machine := last }) ∧
        report.result = ⟨[], some (.interrupted cause)⟩) ∧
    ∀ cause fuel, ∃ report final,
      interpreter.run (fuel + 1) (.already cause) = some (report, final) ∧
      report.result = ⟨[], if interpreter.program = [] then none else some (.interrupted cause)⟩ ∧
      final.machine.asked = 0 ∧ final.machine.source = interpreter.machine.source ∧
      (∀ index, final.cellAt index = 0) ∧ final.cursor = 0 ∧ final.loopCount = 0 := by
  constructor
  · intro fuel few
    apply run_of_machine_run
    apply Machine.run_of_few
    rwa [show interpreter.machine.reset.asked = 0 from rfl, Nat.zero_add]
  constructor
  · intro fuel last reached
    exact ⟨run_of_reads_last reached, run_of_reads_on reached⟩
  constructor
  · intro count cause fuel
    exact ⟨fun short => run_of_machine_run (Machine.run_of_short short cause),
      fun last reached => run_of_visited reached cause⟩
  · intro cause fuel
    by_cases empty : interpreter.program = []
    · obtain ⟨report, ran, result⟩ := run_of_empty empty (.already cause) fuel
      rw [if_pos empty]
      exact ⟨report, _, ran, result, rfl, rfl, cellAt_reset _, rfl, rfl⟩
    · obtain ⟨report, ran, result⟩ := run_of_already empty cause fuel
      rw [if_neg empty]
      exact ⟨report, _, ran, result, rfl, rfl, cellAt_reset _, rfl, rfl⟩

/-- The loop of `,[,]` reads a line in each round. -/
def roundReader : Interpreter :=
  ⟨utf8 ",[,]", Limits.unbounded,
    .start .single (some (.listed [utf8 "a", utf8 "b", utf8 "c", utf8 "d"]))⟩

/-- The third line comes in the second round, after one closing bracket. -/
theorem second_round_is_canceled :
    ∃ last after report, (roundReader.requests 9)[2]? = some last ∧
      roundReader.run 10 (.atLine 3) = some (report, { roundReader with machine := after }) ∧
      report.result = ⟨[], some (.interrupted .canceled)⟩ ∧ after.asked = 3 ∧
      after.tape.get = 0x63 ∧ after.closes = 1 := by
  have passed : (roundReader.requests 9)[2]?.map (fun last =>
      (last.pointer, last.source.bind fun source => source.next.1.error,
        (last.execute Limits.unbounded .input).machine.tape.get,
        (last.execute Limits.unbounded .input).machine.closes)) = some (2, none, 0x63, 1) := by
    decide +kernel
  obtain ⟨last, reached, seen⟩ := Option.map_eq_some_iff.mp passed
  simp only [Prod.mk.injEq] at seen
  obtain ⟨pointer, answered, cell, closes⟩ := seen
  have goes : ¬ roundReader.ReadsLast last := by
    rintro (⟨later, error, failed⟩ | outside)
    · rcases Machine.execute_failed_cases failed with
        ⟨_, source, cause, given, broken, _⟩ | ⟨kind, _⟩ | ⟨kind, _⟩
      · rw [given, Option.bind_some, broken] at answered
        cases answered
      · cases kind
      · cases kind
    · rw [pointer] at outside
      cases outside
  obtain ⟨after, report, executed, _, ran, result, asked, _⟩ :=
    ((cancellation_cuts_run roundReader 2).2.1 9 last reached).2 goes
  change last.execute Limits.unbounded .input = .next after at executed
  rw [executed] at cell closes
  exact ⟨last, after, report, reached, ran, result, asked, cell, closes⟩

end Interpreter

end Brainfuck
