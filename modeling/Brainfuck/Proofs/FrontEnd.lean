import Brainfuck.CommandLine.Run
import Brainfuck.Proofs.Validation

/-!
The command line in front of an execution. Errors keep their exit code under every label, and but
for its log, running a source that was read is executing it. A source that was found in order can
fail for few reasons only.
-/

namespace Brainfuck

theorem Error.exitCode_labelled (label : Bytes) (error : Error) :
    (Error.labelled label error).exitCode = error.exitCode :=
  rfl

section Readers

theorem Reader.next_ending (reader : Reader) : reader.next.2.ending = reader.ending := by
  unfold Reader.next
  split
  · rfl
  · split <;> rfl

/-- The only error that a reader answers with is the one that it ends with. -/
theorem Reader.next_error {reader : Reader} {cause : Error}
    (failed : reader.next.1.error = some cause) : cause = reader.ending := by
  unfold Reader.next at failed
  split at failed
  · cases failed
  · split at failed
    · cases failed
    · cases failed
      rfl

theorem LineSource.serves_reading {reader : Reader} {answer : Answer} {cause : Error}
    (served : (LineSource.reading reader).Serves answer) (failed : answer.error = some cause) :
    cause = reader.ending := by
  obtain ⟨count, member⟩ := served
  induction count generalizing reader with
  | zero => cases member
  | succ count ih =>
      rcases List.mem_cons.mp member with first | later
      · subst first
        exact Reader.next_error failed
      · rw [← reader.next_ending]
        exact ih later

end Readers

namespace CommandLine

section Reports

/-- A report without its log. -/
def Report.unlogged (report : Report) : Report :=
  { report with log := [] }

theorem conclude_unlogged (options : Options) (closedOutput : Option Error)
    (notices : List Notice) (log : List Log.Entry) (result : Interpreter.Result) :
    (conclude options closedOutput notices log result).unlogged =
      conclude options closedOutput notices [] result := by
  unfold conclude
  cases result.error with
  | some error => rfl
  | none => cases closedOutput <;> rfl

/-- Apart from the log, running a source that was read is executing it. -/
theorem runSource_unlogged (fuel : Nat) (surroundings : Surroundings) (options : Options)
    (level : Log.Level) (program : Program) (source : Bytes) :
    (runSource fuel surroundings options level program source).map Report.unlogged =
      (execute fuel surroundings.watch source
        (if options.noInput then none else some (.reading program.stdin)) options.limits).map
        (conclude options surroundings.closedOutput program.notices []) := by
  unfold runSource execute
  dsimp only
  generalize (if options.noInput then none else some (LineSource.reading program.stdin)) = input
  cases Interpreter.build source options.limits input with
  | error fault => rfl
  | ok interpreter =>
      dsimp only
      cases interpreter.run fuel surroundings.watch with
      | none => rfl
      | some reached => exact congrArg some (conclude_unlogged _ _ _ _ _)

theorem conclude_log (options : Options) (closedOutput : Option Error) (notices : List Notice)
    (log : List Log.Entry) (result : Interpreter.Result) :
    (conclude options closedOutput notices log result).log = log := by
  unfold conclude
  cases result.error with
  | some error => rfl
  | none => cases closedOutput <;> rfl

/-- All that a run logs is of no interest to anybody who asks for warnings. -/
theorem log_debug {interpreter final : Interpreter} {fuel : Nat} {watch : Watch}
    {report : Interpreter.Report} (ran : interpreter.run fuel watch = some (report, final)) :
    ∀ entry ∈ report.log, entry.level = .debug := by
  obtain ⟨machine, halt, _, _, rfl⟩ := Interpreter.run_eq_some_iff.mp ran
  intro entry member
  rcases List.mem_cons.mp member with first | later
  · subst first
    rfl
  · cases halt with
    | interrupted cause => cases later
    | finished | failed error | unclosed position =>
        rw [Interpreter.closingEntry, List.mem_singleton] at later
        subst later
        rfl

theorem filter_debug {level : Log.Level} {log : List Log.Entry} (high : level.admits .debug = false)
    (debug : ∀ entry ∈ log, entry.level = .debug) :
    (log.filter fun entry => level.admits entry.level) = [] := by
  rw [List.filter_eq_nil_iff]
  intro entry member
  rw [debug entry member, high]
  exact Bool.false_ne_true

theorem runSource_log {fuel : Nat} {surroundings : Surroundings} {options : Options}
    {level : Log.Level} {program : Program} {source : Bytes} {report : Report}
    (high : level.admits .debug = false)
    (ran : runSource fuel surroundings options level program source = some report) :
    report.log = [] := by
  unfold runSource at ran
  dsimp only at ran
  split at ran
  · cases ran
    exact filter_debug high (by simp [loadedEntry])
  · obtain ⟨⟨inner, final⟩, done, rfl⟩ := Option.map_eq_some_iff.mp ran
    rw [conclude_log]
    apply filter_debug high
    exact List.forall_mem_cons.mpr ⟨rfl, log_debug done⟩

/-- Where debugging is not asked for, nothing is logged. -/
theorem run_log {fuel : Nat} {surroundings : Surroundings} {arguments : List Bytes}
    {options : Options} {level : Log.Level} {report : Report}
    (parsed : Options.parse arguments = .ok options)
    (leveled : Log.Level.ofText? (surroundings.levelName options) = some level)
    (high : level.admits .debug = false)
    (ran : run fuel surroundings arguments = some report) : report.log = [] := by
  simp only [run, parsed, runOptions, leveled] at ran
  split at ran
  · cases ran
    rfl
  · split at ran
    · cases ran
      rfl
    · exact runSource_log high ran

end Reports

section Failures

/-- The errors with which a program can fail although its brackets match and its limits are
allowed: the limit itself, and what comes from outside. -/
inductive Excused (surroundings : Surroundings) (limits : Limits) : Error → Prop where
  | limited (bounded : limits.loopLimit ≠ Limits.unbounded) :
      Excused surroundings limits (.fault (.loopLimit limits.loopLimit.toInt))
  | unread (other : surroundings.stdin.ending.is .endOfInput = false) :
      Excused surroundings limits (.labelled (utf8 "reading input") surroundings.stdin.ending)
  | interrupted {count asked : Nat} {cause : Interruption}
      (raised : (surroundings.watch.pass count).raised asked = some cause) :
      Excused surroundings limits (.interrupted cause)
  | unwritten {cause : Error} (closed : surroundings.closedOutput = some cause) :
      Excused surroundings limits (.labelled (utf8 "writing output") cause)

variable {surroundings : Surroundings} {limits : Limits}

theorem execute_excused {script : Bytes} {fuel : Nat} {result : Interpreter.Result}
    (checked : limits.check = none) (valid : Brackets.validate script = none)
    (halted : execute fuel surroundings.watch script (some (.reading surroundings.stdin)) limits =
      some result) :
    (∃ output, result = ⟨output, none⟩) ∨
      ∃ error, result = ⟨[], some error⟩ ∧ Excused surroundings limits error := by
  rcases execute_verdict halted with ⟨fault, refused, _⟩ | ⟨output, _, succeeded⟩ |
    ⟨fault, refused, _⟩ | ⟨halt, error, aborted, failed, rfl⟩
  · rw [checked] at refused
    cases refused
  · exact .inl ⟨output, succeeded⟩
  · rw [valid] at refused
    cases refused
  · refine .inr ⟨error, rfl, ?_⟩
    cases aborted with
    | interrupted raised =>
        cases failed
        exact .interrupted raised
    | limited bounded =>
        cases failed
        exact .limited bounded
    | unread given served broken other =>
        cases given
        cases failed
        -- Whichever line it was, the reader fails with one error only.
        have cause := LineSource.serves_reading served broken
        subst cause
        exact .unread other

/-- The report on such a program: what it has written and nothing else, or an error. -/
theorem conclude_excused {options : Options} {script : Bytes} {fuel : Nat}
    {result : Interpreter.Result} (untimed : options.timed = false)
    (checked : limits.check = none) (valid : Brackets.validate script = none)
    (halted : execute fuel surroundings.watch script (some (.reading surroundings.stdin)) limits =
      some result) :
    (∃ output, conclude options surroundings.closedOutput [] [] result = { stdout := output } ∧
      execute fuel .never script (some (.reading surroundings.stdin)) limits =
        some ⟨output, none⟩) ∨
    ∃ error, conclude options surroundings.closedOutput [] [] result = { error := some error } ∧
      Excused surroundings limits error := by
  rcases execute_excused checked valid halted with ⟨output, rfl⟩ | ⟨error, rfl, excused⟩
  · cases closed : surroundings.closedOutput with
    | none =>
        refine .inl ⟨output, ?_, execute_unwatched halted⟩
        simp [conclude, untimed]
    | some cause => exact .inr ⟨_, rfl, .unwritten closed⟩
  · exact .inr ⟨error, rfl, excused⟩

/-- Faults of the arguments and of the program are not among these errors. -/
theorem excused_exitCode_ne {error : Error} {code : Nat}
    (excused : Excused surroundings limits error)
    (bad : code = ExitCode.usage ∨ code = ExitCode.malformed)
    (input : surroundings.stdin.ending.exitCode ≠ code)
    (output : ∀ cause ∈ surroundings.closedOutput, cause.exitCode ≠ code) :
    error.exitCode ≠ code := by
  cases excused with
  | limited bounded => rcases bad with rfl | rfl <;> nofun
  | unread other =>
      rw [Error.exitCode_labelled]
      exact input
  | interrupted raised => rcases bad with rfl | rfl <;> nofun
  | unwritten closed =>
      rw [Error.exitCode_labelled]
      exact output _ closed

end Failures

end CommandLine

end Brainfuck
