import Brainfuck.Proofs.Delegation
import Brainfuck.Proofs.ErrorTrees
import Brainfuck.Proofs.FrontEnd

/-!
Exit codes. The command line goes through its stages one after another, and each way to leave a
stage has one exit code. Every run leaves in one of these ways, so the exit code tells which
sort of way it was.
-/

namespace Brainfuck

/-- Errors of the system: texts and the end of input, whatever is put around them. -/
inductive Error.Plain : Error → Prop where
  | text (message : Bytes) : Plain (.plain message)
  | ended : Plain .endOfInput
  | labelled (label : Bytes) {cause : Error} (plain : Plain cause) : Plain (.labelled label cause)
  | joined {first second : Error} (left : Plain first) (right : Plain second) :
      Plain (.joined first second)

section Plain

variable {error : Error}

theorem Error.Plain.code_eq (plain : error.Plain) : ∀ cause ∈ error.leaves, cause.code = 1 := by
  induction plain with
  | text message => exact List.forall_mem_singleton.mpr rfl
  | ended => exact List.forall_mem_singleton.mpr rfl
  | labelled label _ ih => exact ih
  | joined _ _ left right => exact List.forall_mem_append.mpr ⟨left, right⟩

theorem Error.Plain.exitCode (plain : error.Plain) : error.exitCode = ExitCode.failure := by
  have none {code : Nat} (special : code ≠ 1) : ¬ error.Holds code := by
    rintro ⟨cause, member, rfl⟩
    exact special (plain.code_eq cause member)
  rw [exitCode_eq, if_neg (none (by decide)), if_neg (none (by decide)), if_neg (none (by decide)),
    if_neg (none (by decide))]
  rfl

end Plain

theorem Brackets.scan_isBracket {position : Nat} {opened : List Nat} {commands : List Command}
    {fault : Fault} (blamed : scan position opened commands = some fault) :
    fault.isBracket := by
  induction commands generalizing position opened with
  | nil =>
      obtain ⟨innermost, _, rfl⟩ := Option.map_eq_some_iff.mp blamed
      rfl
  | cons command rest ih =>
      rw [scan_cons] at blamed
      split at blamed
      · cases blamed
        rfl
      · exact ih blamed

theorem Limits.check_exitCode {limits : Limits} {fault : Fault}
    (refused : limits.check = some fault) : (Error.fault fault).exitCode = ExitCode.usage := by
  unfold Limits.check at refused
  split at refused
  · cases refused
    rfl
  · split at refused <;> cases refused
    rfl

namespace CommandLine

variable {fuel : Nat} {surroundings : Surroundings} {arguments : List Bytes} {options : Options}
  {source : Bytes} {result : Interpreter.Result} {report : Report}

section Programs

/-- The program file was read, its limits are allowed, and executing it comes to a result. -/
structure Runs (fuel : Nat) (surroundings : Surroundings) (arguments : List Bytes)
    (options : Options) (source : Bytes) (result : Interpreter.Result) : Prop where
  loads : ∃ path, Loads surroundings arguments options path source
  allowed : options.limits.check = none
  halts : execute fuel surroundings.watch source (inputOf options surroundings.stdin)
    options.limits = some result

theorem drop_reading (reader : Reader) (count : Nat) :
    ∃ later : Reader, (LineSource.reading reader).drop count = .reading later ∧
      later.ending = reader.ending := by
  induction count generalizing reader with
  | zero => exact ⟨reader, rfl, rfl⟩
  | succ count ih =>
      obtain ⟨later, same, ending⟩ := ih reader.next.2
      exact ⟨later, same, ending.trans reader.next_ending⟩

/-- How a program comes to its result. -/
theorem Runs.verdict (runs : Runs fuel surroundings arguments options source result) :
    (∃ output, result = ⟨output, none⟩) ∨
      (∃ fault, result = ⟨[], some (.fault fault)⟩ ∧ fault.isBracket ∧
        Brackets.validate source = some fault) ∨
      (result = ⟨[], some (.fault (.loopLimit options.limits.loopLimit.toInt))⟩ ∧
        0 ≤ options.limits.loopLimit.toInt) ∨
      result = ⟨[], some (.labelled (utf8 "reading input") surroundings.stdin.ending)⟩ ∨
      ∃ cause, result = ⟨[], some (.interrupted cause)⟩ := by
  rcases execute_verdict runs.halts with ⟨fault, refused, _⟩ | ⟨output, _, rfl⟩ |
    ⟨fault, blamed, rfl⟩ | ⟨halt, error, aborted, failed, rfl⟩
  · cases runs.allowed.symm.trans refused
  · exact .inl ⟨output, rfl⟩
  · exact .inr (.inl ⟨fault, rfl, Brackets.scan_isBracket blamed, blamed⟩)
  · cases aborted with
    | interrupted raised =>
        cases failed
        exact .inr (.inr (.inr (.inr ⟨_, rfl⟩)))
    | limited bounded =>
        cases failed
        refine .inr (.inr (.inl ⟨rfl, ?_⟩))
        have least := ((Limits.check_eq_none_iff _).mp runs.allowed).2
        have other : options.limits.loopLimit.toInt ≠ -1 := fun same =>
          bounded (Int64.toInt_inj.mp same)
        omega
    | unread given served broken other =>
        cases failed
        unfold inputOf at given
        split at given
        · cases given
        · obtain ⟨later, same, ending⟩ := drop_reading surroundings.stdin (pathLines options)
          rw [same] at given
          cases given
          rw [LineSource.serves_reading served broken, ending]
          exact .inr (.inr (.inr (.inl rfl)))

theorem Runs.fault_cases {fault : Fault}
    (runs : Runs fuel surroundings arguments options source ⟨[], some (.fault fault)⟩) :
    fault.isBracket ∧ Brackets.validate source = some fault ∨
      fault = .loopLimit options.limits.loopLimit.toInt ∧
        0 ≤ options.limits.loopLimit.toInt := by
  rcases runs.verdict with
    ⟨_, same⟩ | ⟨_, same, bracket, blamed⟩ | ⟨same, bounded⟩ | same | ⟨_, same⟩ <;> cases same
  · exact .inl ⟨bracket, blamed⟩
  · exact .inr ⟨rfl, bounded⟩

theorem Runs.report_eq (runs : Runs fuel surroundings arguments options source result)
    (ran : run fuel surroundings arguments = some report) :
    report.unlogged =
      conclude options surroundings.closedOutput (promptOf options) [] result := by
  obtain ⟨path, loads⟩ := runs.loads
  have same := run_of_loads loads fuel
  rw [ran, runs.halts] at same
  exact Option.some.inj same

theorem Runs.exitCode_error {error : Error}
    (runs : Runs fuel surroundings arguments options source ⟨[], some error⟩)
    (ran : run fuel surroundings arguments = some report) :
    report.exitCode = error.exitCode :=
  congrArg Report.exitCode (runs.report_eq ran)

end Programs

section Stages

/-- Help was asked for, or the program completed and its output was written. -/
inductive Succeeds (fuel : Nat) (surroundings : Surroundings) (arguments : List Bytes)
    (report : Report) : Prop where
  | helped (asked : Flag.scan flags arguments = .error .helpRequested) :
      Succeeds fuel surroundings arguments report
  | completed {options : Options} {source output : Bytes}
      (runs : Runs fuel surroundings arguments options source ⟨output, none⟩)
      (writable : surroundings.closedOutput = none) (written : report.stdout = output) :
      Succeeds fuel surroundings arguments report

/-- The arguments are refused: by themselves, or once the file was read for their limits. -/
inductive Misuses (surroundings : Surroundings) (arguments : List Bytes) : Prop where
  | flag {fault : Flag.Fault} (scanned : Flag.scan flags arguments = .error fault)
      (other : fault ≠ .helpRequested) : Misuses surroundings arguments
  | operands {settings : List Setting} {operands : List Bytes}
      (scanned : Flag.scan flags arguments = .ok (settings, operands))
      (more : operands ≠ []) : Misuses surroundings arguments
  | level {options : Options} (parsed : Options.parse arguments = .ok options)
      (unknown : Log.Level.ofText? (surroundings.levelName options) = none) : Misuses surroundings arguments
  | limits {options : Options} {path source : Bytes} {fault : Fault}
      (loads : Loads surroundings arguments options path source)
      (refused : options.limits.check = some fault) : Misuses surroundings arguments

/-- Something outside the program fails: the path, the file, the input or the output, or the
run is asked to stop. -/
inductive Fails (fuel : Nat) (surroundings : Surroundings) (arguments : List Bytes) : Prop where
  | unnamed {options : Options} {error : Error} (parsed : Options.parse arguments = .ok options)
      (leveled : (Log.Level.ofText? (surroundings.levelName options)).isSome) (omitted : options.file = [])
      (broken : surroundings.stdin.next.1.error = some error) :
      Fails fuel surroundings arguments
  | unreadable {options : Options} {path : Bytes} {fault : Files.Fault}
      (parsed : Options.parse arguments = .ok options)
      (leveled : (Log.Level.ofText? (surroundings.levelName options)).isSome)
      (names : Names options surroundings.stdin path)
      (missing : surroundings.read path = .error fault) : Fails fuel surroundings arguments
  | unread {options : Options} {source : Bytes}
      (runs : Runs fuel surroundings arguments options source
        ⟨[], some (.labelled (utf8 "reading input") surroundings.stdin.ending)⟩) :
      Fails fuel surroundings arguments
  | interrupted {options : Options} {source : Bytes} {cause : Interruption}
      (runs : Runs fuel surroundings arguments options source ⟨[], some (.interrupted cause)⟩) :
      Fails fuel surroundings arguments
  | unwritten {options : Options} {source output : Bytes} {error : Error}
      (runs : Runs fuel surroundings arguments options source ⟨output, none⟩)
      (closed : surroundings.closedOutput = some error) : Fails fuel surroundings arguments

/-- The program ends with a bracket that has no partner. -/
def Malforms (fuel : Nat) (surroundings : Surroundings) (arguments : List Bytes) : Prop :=
  ∃ options source fault,
    Runs fuel surroundings arguments options source ⟨[], some (.fault fault)⟩ ∧ fault.isBracket

/-- The program ends with its loop limit. -/
def Exhausts (fuel : Nat) (surroundings : Surroundings) (arguments : List Bytes) : Prop :=
  ∃ options source limit,
    Runs fuel surroundings arguments options source ⟨[], some (.fault (.loopLimit limit))⟩

/-- The ways to leave the command line, by their exit codes. -/
def Leaves (fuel : Nat) (surroundings : Surroundings) (arguments : List Bytes)
    (report : Report) : Nat → Prop
  | 0 => Succeeds fuel surroundings arguments report
  | 1 => Fails fuel surroundings arguments
  | 2 => Misuses surroundings arguments
  | 3 => Malforms fuel surroundings arguments
  | 4 => Exhausts fuel surroundings arguments
  | _ => False

theorem names_or_broken (options : Options) (stdin : Reader) :
    (∃ path, Names options stdin path) ∨
      options.file = [] ∧ ∃ error, stdin.next.1.error = some error := by
  by_cases omitted : options.file = []
  · cases served : stdin.next.1.error with
    | none => exact .inl ⟨_, .line omitted (congrArg (Answer.mk stdin.next.1.line) served)⟩
    | some error => exact .inr ⟨omitted, error, rfl⟩
  · exact .inl ⟨_, .option omitted⟩

section Codes

variable (ran : run fuel surroundings arguments = some report)
include ran

theorem exitCode_of_scan {fault : Flag.Fault}
    (scanned : Flag.scan flags arguments = .error fault) :
    report.exitCode =
      if fault = .helpRequested then ExitCode.ok else ExitCode.usage := by
  rw [run, Options.parse, scanned] at ran
  cases ran
  cases fault <;> rfl

theorem Succeeds.exitCode (succeeds : Succeeds fuel surroundings arguments report) :
    report.exitCode = ExitCode.ok := by
  cases succeeds with
  | helped asked => exact exitCode_of_scan ran asked
  | completed runs writable written =>
      have same := runs.report_eq ran
      rw [writable] at same
      exact congrArg Report.exitCode same

theorem Misuses.exitCode (misuses : Misuses surroundings arguments) :
    report.exitCode = ExitCode.usage := by
  cases misuses with
  | flag scanned other => exact (exitCode_of_scan ran scanned).trans (if_neg other)
  | operands scanned more =>
      rename_i settings operands
      cases operands with
      | nil => contradiction
      | cons first rest =>
          rw [run, Options.parse, scanned] at ran
          cases ran
          rfl
  | level parsed unknown =>
      rw [run, parsed] at ran
      simp only [runOptions, unknown] at ran
      cases ran
      rfl
  | limits loads refused =>
      rename_i options path source fault
      have same := run_of_loads loads fuel
      rw [ran, execute_of_fault refused] at same
      have code : report.exitCode = (Error.fault fault).exitCode :=
        congrArg Report.exitCode (Option.some.inj same)
      exact code.trans (Limits.check_exitCode refused)

theorem Malforms.exitCode (malforms : Malforms fuel surroundings arguments) :
    report.exitCode = ExitCode.malformed := by
  obtain ⟨options, source, fault, runs, bracket⟩ := malforms
  rw [runs.exitCode_error ran]
  cases fault with
  | unmatchedClose | unmatchedOpen => rfl
  | loopLimit | invalidTapeSize | invalidLoopLimit => cases bracket

theorem Exhausts.exitCode (exhausts : Exhausts fuel surroundings arguments) :
    report.exitCode = ExitCode.loopLimit := by
  obtain ⟨options, source, limit, runs⟩ := exhausts
  rw [runs.exitCode_error ran]
  rfl

theorem Fails.exitCode (fails : Fails fuel surroundings arguments)
    (input : surroundings.stdin.ending.Plain)
    (output : ∀ error ∈ surroundings.closedOutput, error.Plain) :
    report.exitCode = ExitCode.failure := by
  cases fails with
  | unnamed parsed leveled omitted broken =>
      obtain ⟨level, leveled⟩ := Option.isSome_iff_exists.mp leveled
      simp only [run, parsed, runOptions, leveled, Program.locate, omitted, ne_eq,
        not_true_eq_false, ↓reduceIte, broken] at ran
      cases ran
      cases Reader.next_error broken
      exact input.exitCode
  | unreadable parsed leveled names missing =>
      obtain ⟨level, leveled⟩ := Option.isSome_iff_exists.mp leveled
      obtain ⟨program, located, rfl, _⟩ := locate_of_names names
      simp only [run, parsed, runOptions, leveled, located, missing] at ran
      cases ran
      rfl
  | unread runs =>
      rw [runs.exitCode_error ran]
      exact input.exitCode
  | interrupted runs =>
      rw [runs.exitCode_error ran]
      rfl
  | unwritten runs closed =>
      have same := runs.report_eq ran
      rw [closed] at same
      exact (congrArg Report.exitCode same).trans (output _ closed).exitCode

theorem Leaves.exitCode {code : Nat}
    (leaves : Leaves fuel surroundings arguments report code)
    (input : surroundings.stdin.ending.Plain)
    (output : ∀ error ∈ surroundings.closedOutput, error.Plain) :
    report.exitCode = code := by
  match code, leaves with
  | 0, succeeds => exact Succeeds.exitCode ran succeeds
  | 1, fails => exact Fails.exitCode ran fails input output
  | 2, misuses => exact Misuses.exitCode ran misuses
  | 3, malforms => exact Malforms.exitCode ran malforms
  | 4, exhausts => exact Exhausts.exitCode ran exhausts

theorem leaves_of_loads {path : Bytes}
    (loads : Loads surroundings arguments options path source) :
    ∃ code, Leaves fuel surroundings arguments report code := by
  have same := run_of_loads loads fuel
  rw [ran] at same
  obtain ⟨result, halts, _⟩ := Option.map_eq_some_iff.mp same.symm
  cases allowed : options.limits.check with
  | some fault => exact ⟨2, .limits loads allowed⟩
  | none =>
      have runs : Runs fuel surroundings arguments options source result :=
        ⟨⟨path, loads⟩, allowed, halts⟩
      rcases runs.verdict with
        ⟨output, rfl⟩ | ⟨fault, rfl, bracket, _⟩ | ⟨rfl, _⟩ | rfl | ⟨cause, rfl⟩
      · cases closed : surroundings.closedOutput with
        | none =>
            have shown := runs.report_eq ran
            rw [closed] at shown
            exact ⟨0, .completed runs closed (congrArg Report.stdout shown)⟩
        | some error => exact ⟨1, .unwritten runs closed⟩
      · exact ⟨3, options, source, fault, runs, bracket⟩
      · exact ⟨4, options, source, _, runs⟩
      · exact ⟨1, .unread runs⟩
      · exact ⟨1, .interrupted runs⟩

/-- Every run leaves some stage. -/
theorem run_leaves : ∃ code, Leaves fuel surroundings arguments report code := by
  cases scanned : Flag.scan flags arguments with
  | error fault =>
      by_cases help : fault = .helpRequested
      · subst help
        exact ⟨0, .helped scanned⟩
      · exact ⟨2, .flag scanned help⟩
  | ok reached =>
      obtain ⟨settings, operands⟩ := reached
      cases operands with
      | cons first rest => exact ⟨2, .operands scanned (List.cons_ne_nil first rest)⟩
      | nil =>
          obtain ⟨options, parsed⟩ : ∃ options, Options.parse arguments = .ok options :=
            ⟨_, by rw [Options.parse, scanned]⟩
          cases leveled : Log.Level.ofText? (surroundings.levelName options) with
          | none => exact ⟨2, .level parsed leveled⟩
          | some level =>
              have known := Option.isSome_of_mem leveled
              rcases names_or_broken options surroundings.stdin with
                ⟨path, names⟩ | ⟨omitted, error, broken⟩
              · cases found : surroundings.read path with
                | error fault => exact ⟨1, .unreadable parsed known names found⟩
                | ok source => exact leaves_of_loads ran ⟨parsed, known, names, found⟩
              · exact ⟨1, .unnamed parsed known omitted broken⟩

theorem exitCode_eq_iff (input : surroundings.stdin.ending.Plain)
    (output : ∀ error ∈ surroundings.closedOutput, error.Plain) (code : Nat) :
    report.exitCode = code ↔ Leaves fuel surroundings arguments report code := by
  constructor
  · intro same
    obtain ⟨other, leaves⟩ := run_leaves ran
    rwa [← same, leaves.exitCode ran input output]
  · intro leaves
    exact leaves.exitCode ran input output

/-- Whatever is none of the other cases is a failure. -/
theorem exitCode_eq_one_iff (input : surroundings.stdin.ending.Plain)
    (output : ∀ error ∈ surroundings.closedOutput, error.Plain) :
    report.exitCode = 1 ↔
      ¬ Succeeds fuel surroundings arguments report ∧ ¬ Misuses surroundings arguments ∧
      ¬ Malforms fuel surroundings arguments ∧ ¬ Exhausts fuel surroundings arguments := by
  have classes := exitCode_eq_iff ran input output
  constructor
  · intro one
    have other : ∀ code, code ≠ 1 → ¬ Leaves fuel surroundings arguments report code := by
      intro code apart leaves
      exact apart (((classes code).mpr leaves).symm.trans one)
    exact ⟨other 0 (by decide), other 2 (by decide), other 3 (by decide), other 4 (by decide)⟩
  · rintro ⟨unsuccessful, wellUsed, wellFormed, unlimited⟩
    obtain ⟨code, leaves⟩ := run_leaves ran
    match code, leaves with
    | 0, succeeds => exact absurd succeeds unsuccessful
    | 1, fails => exact (classes 1).mpr fails
    | 2, misuses => exact absurd misuses wellUsed
    | 3, malforms => exact absurd malforms wellFormed
    | 4, exhausts => exact absurd exhausts unlimited

end Codes

/-- Exit codes classify every outcome. Of a program that ends with a bracket fault, validation
says the same, and a program can only end with its loop limit if it was given one. -/
theorem exit_codes_classify (ran : run fuel surroundings arguments = some report)
    (input : surroundings.stdin.ending.Plain)
    (output : ∀ error ∈ surroundings.closedOutput, error.Plain) :
    (report.exitCode = 0 ↔ Succeeds fuel surroundings arguments report) ∧
    (report.exitCode = 2 ↔ Misuses surroundings arguments) ∧
    (report.exitCode = 3 ↔ Malforms fuel surroundings arguments) ∧
    (∀ options source fault,
      Runs fuel surroundings arguments options source ⟨[], some (.fault fault)⟩ →
      fault.isBracket →
      report.error = some (.fault fault) ∧ Brackets.validate source = some fault) ∧
    (report.exitCode = 4 ↔ Exhausts fuel surroundings arguments) ∧
    (∀ options source limit,
      Runs fuel surroundings arguments options source ⟨[], some (.fault (.loopLimit limit))⟩ →
      0 ≤ options.limits.loopLimit.toInt) ∧
    (report.exitCode = 1 ↔ Fails fuel surroundings arguments) ∧
    (report.exitCode = 1 ↔
      ¬ Succeeds fuel surroundings arguments report ∧ ¬ Misuses surroundings arguments ∧
      ¬ Malforms fuel surroundings arguments ∧ ¬ Exhausts fuel surroundings arguments) := by
  have classes := exitCode_eq_iff ran input output
  refine ⟨classes 0, classes 2, classes 3, ?_, classes 4, ?_, classes 1,
    exitCode_eq_one_iff ran input output⟩
  · intro options source fault runs bracket
    refine ⟨congrArg Report.error (runs.report_eq ran), ?_⟩
    rcases runs.fault_cases with ⟨_, blamed⟩ | ⟨rfl, _⟩
    · exact blamed
    · cases bracket
  · intro options source limit runs
    rcases runs.fault_cases with ⟨bracket, _⟩ | ⟨_, bounded⟩
    · cases bracket
    · exact bounded

def strayCloseSurroundings : Surroundings where
  read _ := .ok (utf8 "]")
  stdin := .ofText []

/-- The limit comes before the bracket, so a stray `]` that may not be evaluated is no malformed
program. -/
theorem stray_close_exits_with_limit :
    ∃ report, run 5 strayCloseSurroundings [utf8 "-file=p.bf", utf8 "-loop-limit=0"] =
        some report ∧
      Brackets.validate (utf8 "]") = some (.unmatchedClose 0) ∧ report.exitCode = 4 ∧
      Exhausts 5 strayCloseSurroundings [utf8 "-file=p.bf", utf8 "-loop-limit=0"] ∧
      ¬ Malforms 5 strayCloseSurroundings [utf8 "-file=p.bf", utf8 "-loop-limit=0"] := by
  have halted : (run 5 strayCloseSurroundings [utf8 "-file=p.bf", utf8 "-loop-limit=0"]).map
      Report.exitCode = some 4 := by decide +kernel
  obtain ⟨report, ran, code⟩ := Option.map_eq_some_iff.mp halted
  obtain ⟨_, _, malformed, _, limited, _⟩ := exit_codes_classify ran .ended nofun
  refine ⟨report, ran, rfl, code, limited.mp code, ?_⟩
  intro malforms
  cases code.symm.trans (malformed.mpr malforms)

end Stages

end CommandLine

end Brainfuck
