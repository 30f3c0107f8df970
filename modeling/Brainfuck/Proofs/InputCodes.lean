import Brainfuck.Proofs.Interruption
import Brainfuck.Proofs.Meaning

/-!
What a run sees of its input. Each `,` takes one answer, and of that answer nothing matters but the
code of its first character and the error, if that is not the end of input. So the run with one
source is carried over to the run with another, machine by machine, as long as the answers that are
asked for are alike. Without a source a `,` is filler.
-/

namespace Brainfuck

namespace Answer

/-- The error that ends a run. The end of input, however wrapped, is none. -/
def failure? (answer : Answer) : Option Error :=
  answer.error.filter fun cause => !cause.is .endOfInput

theorem failure?_eq_none_iff {answer : Answer} :
    answer.failure? = none ↔ ∀ cause, answer.error = some cause → cause.is .endOfInput = true := by
  simp [failure?, Option.filter_eq_none_iff]

theorem failure?_eq_some_iff {answer : Answer} {cause : Error} :
    answer.failure? = some cause ↔ answer.error = some cause ∧ cause.is .endOfInput = false := by
  simp [failure?, Option.filter_eq_some_iff]

/-- The first characters have the same code, and both answers end a run with the same error or
neither of them does. -/
structure Alike (first second : Answer) : Prop where
  code : firstCharCode first.line = firstCharCode second.line
  failure : first.failure? = second.failure?

end Answer

namespace Machine

section Carrying

/-- The same machine with another source, which was asked for as many lines. -/
def fed (input : Option LineSource) (machine : Machine) : Machine :=
  { machine with source := input.map fun source => source.drop machine.asked }

theorem fed_apart (input : Option LineSource) (machine : Machine) :
    (machine.fed input).pointer = machine.pointer ∧ (machine.fed input).loops = machine.loops ∧
      (machine.fed input).asked = machine.asked :=
  ⟨rfl, rfl, rfl⟩

variable {limit : Int64} {machine : Machine}

theorem closeLoop_fed (input : Option LineSource) :
    (machine.fed input).closeLoop limit = (machine.closeLoop limit).map (fed input) :=
  closeLoop_carried limit machine.tape (machine.fed input).source rfl fun _ _ _ => rfl

theorem execute_fed {command : Command} (differs : command ≠ .input)
    (input : Option LineSource) :
    (machine.fed input).execute limit command = (machine.execute limit command).map (fed input) := by
  cases command with
  | input => contradiction
  | loopEnd => exact closeLoop_fed input
  | increment | decrement | left | right | output | loopStart | ignore => rfl

theorem readLine_fed {first second : LineSource} (supplied : machine.Supplied (some first))
    (alike : (first.answer machine.asked).Alike (second.answer machine.asked)) :
    (machine.fed (some second)).readLine = machine.readLine.map (fed (some second)) := by
  have given : machine.source = some (first.drop machine.asked) := supplied
  have other : (machine.fed (some second)).source = some (second.drop machine.asked) := rfl
  have code : firstCharCode (first.drop machine.asked).next.1.line =
      firstCharCode (second.drop machine.asked).next.1.line := alike.code
  cases ending : (first.answer machine.asked).failure? with
  | none =>
      have same := ending ▸ alike.failure
      rw [readLine_of_line given (Answer.failure?_eq_none_iff.mp ending),
        readLine_of_line other (Answer.failure?_eq_none_iff.mp same.symm)]
      simp [Step.map, fed, LineSource.drop_succ, code]
  | some cause =>
      have same := ending ▸ alike.failure
      obtain ⟨failed, harmful⟩ := Answer.failure?_eq_some_iff.mp ending
      obtain ⟨failedToo, _⟩ := Answer.failure?_eq_some_iff.mp same.symm
      rw [readLine_of_error given failed harmful, readLine_of_error other failedToo harmful]
      simp [Step.map, fed, LineSource.drop_succ]

end Carrying

section Counting

variable {commands : List Command} {limit : Int64} {watch : Watch} {source : LineSource}
  {fuel : Nat}

theorem asking_of_supplied {machine : Machine} (supplied : machine.Supplied (some source))
    (command : Command) : asking command machine = decide (command = .input) := by
  unfold Supplied at supplied
  simp [asking, supplied]

/-- The first `,` asks for the next line, the second for the one after it, and so on. -/
theorem executions_asked {machine : Machine} (supplied : machine.Supplied (some source)) :
    (executions .input commands limit watch fuel machine).map Machine.asked =
      List.range' machine.asked (executions .input commands limit watch fuel machine).length := by
  induction fuel generalizing machine watch with
  | zero => rfl
  | succ fuel ih =>
      rcases moves_or_ends commands limit watch machine with
        ⟨command, later, moved⟩ | ⟨final, halt, ended⟩
      · have rest := @ih (watch.pass 1) later (moves_supplied moved supplied)
        rw [(moves_asked moved).1, asking_of_supplied supplied] at rest
        rw [executions_of_moves moved]
        by_cases reads : command = .input
        · simp only [reads, ↓reduceIte, List.map_cons, List.length_cons, List.range'_succ]
          simpa [reads] using rest
        · simpa [reads] using rest
      · cases ended with
        | complete outside => simp [executions, visited_of_complete outside]
        | interrupted command cause found raised => simp [executions, visited_of_raised raised]
        | failed _ command error found unwatched executed =>
            rw [executions_of_failed found unwatched executed]
            split <;> simp

/-- A run has asked for as many lines as it has executed `,`. -/
theorem run_asked {machine final : Machine} {halt : Halt}
    (supplied : machine.Supplied (some source))
    (halted : machine.run commands.toArray limit watch fuel = some (final, halt)) :
    final.asked = machine.asked + (executions .input commands limit watch fuel machine).length ∧
      final.Supplied (some source) := by
  induction fuel generalizing machine watch with
  | zero => cases halted
  | succ fuel ih =>
      rcases moves_or_ends commands limit watch machine with
        ⟨command, later, moved⟩ | ⟨last, ending, ended⟩
      · rw [run_of_moves moved] at halted
        obtain ⟨asked, kept⟩ := ih (moves_supplied moved supplied) halted
        refine ⟨?_, kept⟩
        rw [asked, (moves_asked moved).1, asking_of_supplied supplied, executions_of_moves moved]
        by_cases reads : command = .input
        · simp [reads]
          omega
        · simp [reads]
      · rw [run_of_ends ended] at halted
        cases halted
        cases ended with
        | complete outside => simpa [executions, visited_of_complete outside] using supplied
        | interrupted command cause found raised =>
            simpa [executions, visited_of_raised raised] using supplied
        | failed _ command error found unwatched executed =>
            -- A `,` that ends the run with an error has taken its answer too.
            have asked := (execute_asked limit command machine).1
            have kept : Supplied (some source) (machine.execute limit command).machine :=
              execute_supplied supplied command
            rw [executed] at asked kept
            refine ⟨?_, kept⟩
            change final.asked = _ at asked
            rw [asked, asking_of_supplied supplied, executions_of_failed found unwatched executed]
            by_cases reads : command = .input <;> simp [reads]

end Counting

section Runs

variable {commands : List Command} {limit : Int64} {watch : Watch} {fuel : Nat}
  {machine : Machine}

theorem visited_supplied {input : Option LineSource} {passed : Machine}
    (supplied : machine.Supplied input)
    (member : passed ∈ visited commands limit watch fuel machine) : passed.Supplied input := by
  obtain ⟨count, _, _, path, _⟩ := mem_visited_iff.mp member
  exact path.invariant moves_supplied supplied

theorem run_fed {first second : LineSource} (supplied : machine.Supplied (some first))
    (alike : ∀ passed ∈ executions .input commands limit watch fuel machine,
      (first.answer passed.asked).Alike (second.answer passed.asked)) :
    (machine.fed (some second)).run commands.toArray limit watch fuel =
      (machine.run commands.toArray limit watch fuel).map fun (final, halt) =>
        (final.fed (some second), halt) := by
  apply run_carried (fed_apart (some second)) rfl
  intro passed member command found
  refine ⟨command, found, ?_⟩
  by_cases reads : command = .input
  · -- Which reads happen depends on earlier ones, but only those that the first run makes count.
    subst reads
    apply readLine_fed (visited_supplied supplied member)
    apply alike
    exact List.mem_filter.mpr ⟨member, by simpa using found⟩
  · exact execute_fed reads _

end Runs

end Machine

/-- The command in a program that has no input. -/
def Command.silenced : Command → Command
  | .input => .ignore
  | command => command

theorem Command.silenced_of_ne {command : Command} (differs : command ≠ .input) :
    command.silenced = command := by
  cases command with
  | input => contradiction
  | increment | decrement | left | right | output | loopStart | loopEnd | ignore => rfl

namespace Machine

theorem execute_silenced {machine : Machine} (deaf : machine.source = none) (limit : Int64)
    (command : Command) (input : Option LineSource) :
    (machine.fed input).execute limit command.silenced =
      (machine.execute limit command).map (fed input) := by
  by_cases reads : command = .input
  · subst reads
    simp only [execute, readLine, deaf]
    rfl
  · rw [Command.silenced_of_ne reads]
    exact execute_fed reads input

/-- Without a source the commands that read are filler. Whatever the source, a program without
such commands leaves it alone. -/
theorem run_silenced {machine : Machine} (deaf : machine.source = none) (commands : List Command)
    (limit : Int64) (watch : Watch) (fuel : Nat) (input : Option LineSource) :
    (machine.fed input).run (commands.map Command.silenced).toArray limit watch fuel =
      (machine.run commands.toArray limit watch fuel).map fun (final, halt) =>
        (final.fed input, halt) := by
  apply run_carried (fed_apart input) (List.length_map _)
  intro passed member command found
  have supplied : passed.Supplied none := visited_supplied deaf member
  refine ⟨command.silenced, ?_, execute_silenced supplied limit command input⟩
  rw [List.getElem?_map, found, Option.map_some]

end Machine

/-- Two programs that differ in that each `,` of the one is a filler byte of the other. -/
inductive Silences : Bytes → Bytes → Prop where
  | nil : Silences [] []
  | input {filler : UInt8} {program other : Bytes} (ignored : Command.ofByte filler = .ignore)
      (rest : Silences program other) : Silences (0x2C :: program) (filler :: other)
  | keep {byte : UInt8} {program other : Bytes} (differs : byte ≠ 0x2C)
      (rest : Silences program other) : Silences (byte :: program) (byte :: other)

theorem Silences.commands {program other : Bytes} (silences : Silences program other) :
    commands other = (commands program).map Command.silenced := by
  induction silences with
  | nil => rfl
  | @input filler program other ignored _ ih =>
      simp only [Brainfuck.commands, List.map_cons, ignored] at ih ⊢
      rw [ih]
      rfl
  | @keep byte program other differs _ ih =>
      have other : Command.ofByte byte ≠ .input := by
        rw [ne_eq, Command.ofByte_eq_iff (by decide)]
        exact differs
      simp only [Brainfuck.commands, List.map_cons, Command.silenced_of_ne other] at ih ⊢
      rw [ih]

namespace Interpreter

variable (interpreter : Interpreter)

theorem reset_fed (first second : Option LineSource) :
    (interpreter.withInput second).machine.reset =
      (interpreter.withInput first).machine.reset.fed second := by
  cases second <;> rfl

theorem executions_lt {source : LineSource} {fuel : Nat} {watch : Watch} {passed : Machine}
    (member : passed ∈ (interpreter.withInput (some source)).executions .input fuel watch) :
    passed.asked < ((interpreter.withInput (some source)).executions .input fuel watch).length := by
  have counted : ((interpreter.withInput (some source)).executions .input fuel watch).map
      Machine.asked = _ :=
    Machine.executions_asked (reset_supplied (interpreter.withInput (some source)))
  have listed := List.mem_map_of_mem (f := Machine.asked) member
  rw [counted, List.mem_range'_1] at listed
  exact Nat.lt_of_lt_of_eq listed.2 (Nat.zero_add _)

theorem yields_fed {first second : LineSource} {fuel : Nat} {watch : Watch}
    (alike : ∀ index < ((interpreter.withInput (some first)).executions .input fuel watch).length,
      (first.answer index).Alike (second.answer index)) :
    (interpreter.withInput (some second)).yields fuel watch =
      ((interpreter.withInput (some first)).yields fuel watch).map fun (result, final) =>
        (result, final.fed (some second)) := by
  have same := Machine.run_fed (reset_supplied (interpreter.withInput (some first)))
    fun passed member => alike passed.asked (executions_lt interpreter member)
  rw [yields_eq, yields_eq, reset_fed interpreter (some first)]
  simp only [withInput] at same ⊢
  rw [same, Option.map_map, Option.map_map]
  rfl

theorem yields_silenced {other : Bytes} (silences : Silences interpreter.program other)
    (input : Option LineSource) (fuel : Nat) (watch : Watch) :
    ((interpreter.withInput input).withProgram other).yields fuel watch =
      ((interpreter.withInput none).yields fuel watch).map fun (result, final) =>
        (result, final.fed input) := by
  have deaf : (interpreter.withInput none).machine.reset.source = none := rfl
  have same := Machine.run_silenced deaf (commands interpreter.program) interpreter.loopLimit watch
    fuel input
  rw [← silences.commands, ← reset_fed interpreter none input] at same
  rw [yields_eq, yields_eq]
  simp only [withInput, withProgram] at same ⊢
  rw [same, Option.map_map, Option.map_map]
  rfl

theorem outcomes_of_alike {first second : LineSource}
    (alike : ∀ index, (first.answer index).Alike (second.answer index)) :
    (interpreter.withInput (some first)).Diverges ∧
        (interpreter.withInput (some second)).Diverges ∨
      ∃ result final last, (interpreter.withInput (some first)).Leaves result final ∧
        (interpreter.withInput (some second)).Leaves result last ∧
        last.tape = final.tape ∧ last.closes = final.closes := by
  have same (fuel : Nat) : (interpreter.withInput (some second)).yields fuel .never =
      ((interpreter.withInput (some first)).yields fuel .never).map fun (result, final) =>
        (result, final.fed (some second)) :=
    yields_fed interpreter fun index _ => alike index
  rcases diverges_or_leaves (interpreter.withInput (some first)) with
    endless | ⟨result, final, fuel, left⟩
  · left
    refine ⟨endless, ?_⟩
    intro fuel
    rw [same fuel, endless fuel]
    rfl
  · right
    refine ⟨result, final, final.fed (some second), ⟨fuel, left⟩, ⟨fuel, ?_⟩, rfl, rfl⟩
    rw [same fuel, left]
    rfl

theorem asks_by_inputs (source : LineSource) (fuel : Nat) (watch : Watch) :
    let inputs := (interpreter.withInput (some source)).executions .input fuel watch
    inputs.map Machine.asked = List.range inputs.length ∧
      (∀ passed ∈ inputs, passed.source = some (source.drop passed.asked)) ∧
      ∀ result final, (interpreter.withInput (some source)).yields fuel watch = some (result, final) →
        final.asked = inputs.length ∧ final.source = some (source.drop inputs.length) := by
  intro inputs
  have supplied := reset_supplied (interpreter.withInput (some source))
  refine ⟨?_, ?_, ?_⟩
  · rw [List.range_eq_range']
    exact Machine.executions_asked supplied
  · intro passed member
    exact Machine.visited_supplied supplied (List.mem_filter.mp member).1
  · intro result final left
    obtain ⟨halt, ran, _⟩ := yields_eq_some_iff.mp left
    obtain ⟨asked, kept⟩ := Machine.run_asked supplied ran
    have counted : final.asked = inputs.length := asked.trans (Nat.zero_add _)
    refine ⟨counted, ?_⟩
    rw [← counted]
    exact kept

/-- A run sees its input through one code for each `,` that it executes. Sources with answers that
are alike give the same outcome. The answers are taken one for each `,`, those behind them do not
matter, and a run without a source is the run of the program with filler in the place of `,`. -/
theorem input_seen_through_codes :
    (∀ first second : LineSource,
      (∀ index, (first.answer index).Alike (second.answer index)) →
      (interpreter.withInput (some first)).Diverges ∧
          (interpreter.withInput (some second)).Diverges ∨
        ∃ result final last, (interpreter.withInput (some first)).Leaves result final ∧
          (interpreter.withInput (some second)).Leaves result last ∧
          last.tape = final.tape ∧ last.closes = final.closes) ∧
    (∀ source fuel watch,
      let inputs := (interpreter.withInput (some source)).executions .input fuel watch
      inputs.map Machine.asked = List.range inputs.length ∧
        (∀ passed ∈ inputs, passed.source = some (source.drop passed.asked)) ∧
        ∀ result final,
          (interpreter.withInput (some source)).yields fuel watch = some (result, final) →
          final.asked = inputs.length ∧ final.source = some (source.drop inputs.length)) ∧
    (∀ first second fuel watch,
      (∀ index < ((interpreter.withInput (some first)).executions .input fuel watch).length,
        (first.answer index).Alike (second.answer index)) →
      (interpreter.withInput (some second)).yields fuel watch =
        ((interpreter.withInput (some first)).yields fuel watch).map fun (result, final) =>
          (result, final.fed (some second))) ∧
    ∀ other, Silences interpreter.program other → ∀ input fuel watch,
      ((interpreter.withInput input).withProgram other).yields fuel watch =
        ((interpreter.withInput none).yields fuel watch).map fun (result, final) =>
          (result, final.fed input) := by
  refine ⟨?_, ?_, ?_, ?_⟩
  · intro first second alike
    exact outcomes_of_alike interpreter alike
  · intro source fuel watch
    exact asks_by_inputs interpreter source fuel watch
  · intro first second fuel watch alike
    exact yields_fed interpreter alike
  · intro other silences input fuel watch
    exact yields_silenced interpreter silences input fuel watch

/-- The loop of `,[.,]` prints what it reads, up to an empty line. -/
def echo : Interpreter :=
  ⟨utf8 ",[.,]", Limits.unbounded, .start .single none⟩

def plainLines : LineSource :=
  .listed [utf8 "ab", utf8 "c"]

/-- The same codes: one line comes with the end of input, wrapped, and the last one is empty. -/
def markedLines : LineSource :=
  .ofAnswers [⟨utf8 "a", some (.labelled (utf8 "last") .endOfInput)⟩, ⟨utf8 "cd", none⟩, ⟨[], none⟩,
    ⟨utf8 "never read", some (.plain (utf8 "broken"))⟩]

theorem marked_lines_are_echoed_alike :
    ((echo.withInput (some plainLines)).executions .input 20 .never).length = 3 ∧
      (∀ index < 3, (plainLines.answer index).Alike (markedLines.answer index)) ∧
      ((echo.withInput (some markedLines)).yields 20 .never).map
        (fun (result, final) => (result, final.asked)) = some (⟨utf8 "ac", none⟩, 3) := by
  have count : ((echo.withInput (some plainLines)).executions .input 20 .never).length = 3 := by
    decide +kernel
  have alike : ∀ index < 3, (plainLines.answer index).Alike (markedLines.answer index) := by
    intro index below
    match index, below with
    | 0, _ => exact ⟨by decide +kernel, by decide +kernel⟩
    | 1, _ => exact ⟨by decide +kernel, by decide +kernel⟩
    | 2, _ => exact ⟨by decide +kernel, by decide +kernel⟩
  have same := (input_seen_through_codes echo).2.2.1 plainLines markedLines 20 .never (count ▸ alike)
  refine ⟨count, alike, ?_⟩
  rw [same, Option.map_map]
  decide +kernel

end Interpreter

end Brainfuck
