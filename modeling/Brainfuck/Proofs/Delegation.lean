import Brainfuck.Proofs.FlagRendering
import Brainfuck.Proofs.FrontEnd
import Brainfuck.Proofs.Trimming

/-!
The command line as a front end. Once its options are known and its program file is read, it
does nothing but execute the source: the lines of standard input that the path has not taken are
the input of the program, and the report shows the result. So it makes no difference whether the
path is an option or the first line.
-/

namespace Brainfuck

namespace WhiteSpace

theorem dropTrailing_of_bare {text : Bytes} (bare : Bare text) :
    Bytes.dropTrailing 0x0D text = text := by
  have known : [0x0D] ∈ encodings := by decide
  apply if_neg
  intro last
  obtain ⟨before, rfl⟩ := List.getLast?_eq_some_iff.mp last
  exact (bare _ known).2 ⟨before, rfl⟩

end WhiteSpace

namespace Reader

/-- The first line of a text that begins with a bare line. -/
theorem next_of_bare {line : Bytes} (bare : WhiteSpace.Bare line) (whole : 0x0A ∉ line)
    (rest : Bytes) (ending : Error) :
    (Reader.mk (line ++ 0x0A :: rest) ending).next = (⟨line, none⟩, ⟨rest, ending⟩) := by
  rw [next_of_line whole, WhiteSpace.dropTrailing_of_bare bare]

end Reader

namespace CommandLine

section Paths

/-- The path of the program: the option, or the first line without the white space around it. -/
inductive Names (options : Options) (stdin : Reader) : Bytes → Prop where
  | option (given : options.file ≠ []) : Names options stdin options.file
  | line {line : Bytes} (omitted : options.file = []) (served : stdin.next.1 = ⟨line, none⟩) :
      Names options stdin (WhiteSpace.trim line)

/-- How many lines of standard input the path takes. -/
def pathLines (options : Options) : Nat :=
  if options.file = [] then 1 else 0

/-- The lines that are left for the program, unless it is to have none. -/
def inputOf (options : Options) (stdin : Reader) : Option LineSource :=
  if options.noInput then none else some ((LineSource.reading stdin).drop (pathLines options))

theorem take_inputOf {options : Options} {stdin : Reader} {lines : LineSource}
    (given : lines ∈ inputOf options stdin) (count : Nat) :
    lines.take count = ((LineSource.reading stdin).take (pathLines options + count)).drop
      (pathLines options) := by
  unfold inputOf at given
  split at given
  · cases given
  · cases given
    exact LineSource.take_drop _ _ _

def promptOf (options : Options) : List Notice :=
  if options.file = [] then [prompt] else []

/-- The program is located where its path is, with the rest of standard input. -/
theorem locate_of_names {options : Options} {stdin : Reader} {path : Bytes}
    (names : Names options stdin path) :
    ∃ program, Program.locate options stdin = .ok program ∧ program.path = path ∧
      program.notices = promptOf options ∧
      LineSource.reading program.stdin = (LineSource.reading stdin).drop (pathLines options) := by
  cases names with
  | option given =>
      refine ⟨⟨options.file, stdin, []⟩, ?_, rfl, ?_, ?_⟩
      · simp [Program.locate, given]
      · simp [promptOf, given]
      · simp [pathLines, given, LineSource.drop]
  | line omitted served =>
      rename_i line
      refine ⟨⟨WhiteSpace.trim line, stdin.next.2, [prompt]⟩, ?_, rfl, ?_, ?_⟩
      · simp [Program.locate, omitted, served]
      · simp [promptOf, omitted]
      · simp [pathLines, omitted, LineSource.drop, LineSource.next]

end Paths

section Reports

/-- The program file is found by the path that the arguments or the first line give. -/
structure Loads (surroundings : Surroundings) (arguments : List Bytes) (options : Options)
    (path source : Bytes) : Prop where
  parsed : Options.parse arguments = .ok options
  leveled : (Log.Level.ofText? (surroundings.levelName options)).isSome
  names : Names options surroundings.stdin path
  found : surroundings.read path = .ok source

theorem run_of_loads {surroundings : Surroundings} {arguments : List Bytes} {options : Options}
    {path source : Bytes} (loads : Loads surroundings arguments options path source)
    (fuel : Nat) :
    (run fuel surroundings arguments).map Report.unlogged =
      (execute fuel surroundings.watch source (inputOf options surroundings.stdin)
        options.limits).map
        (conclude options surroundings.closedOutput (promptOf options) []) := by
  obtain ⟨level, leveled⟩ := Option.isSome_iff_exists.mp loads.leveled
  obtain ⟨program, located, rfl, notices, input⟩ := locate_of_names loads.names
  simp only [run, loads.parsed, runOptions, leveled, located, loads.found]
  rw [runSource_unlogged, notices, input]
  rfl

/-- The report that shows a result: the output and the time, or the error alone. -/
def Report.ofResult (options : Options) (result : Interpreter.Result) : Report :=
  match result.error with
  | none =>
      { stdout := result.text
        stderr := promptOf options ++ if options.timed then [.elapsed] else [] }
  | some error => { stderr := promptOf options, error := some error }

/-- What a report says about standard output and the error. -/
def Report.outcome (report : Report) : Bytes × Option Error :=
  (report.stdout, report.error)

theorem outcome_unlogged (reports : Option Report) :
    (reports.map Report.unlogged).map Report.outcome = reports.map Report.outcome := by
  rw [Option.map_map]
  rfl

theorem conclude_outcome (options other : Options) (closedOutput : Option Error)
    (notices more : List Notice) (result : Interpreter.Result) :
    (conclude options closedOutput notices [] result).outcome =
      (conclude other closedOutput more [] result).outcome := by
  unfold conclude
  cases result.error with
  | some error => rfl
  | none => cases closedOutput <;> rfl

end Reports

section Paths

variable {options : Options} {path : Bytes}

/-- A path that is an option and one that is a bare first line lead to the same program. -/
theorem runOptions_of_line (omitted : options.file = []) (given : path ≠ [])
    (bare : WhiteSpace.Bare path) (whole : 0x0A ∉ path) (fuel : Nat)
    (surroundings : Surroundings) (text : Bytes) (ending : Error) :
    (runOptions fuel { surroundings with stdin := ⟨text, ending⟩ }
        { options with file := path }).map Report.outcome =
      (runOptions fuel { surroundings with stdin := ⟨path ++ 0x0A :: text, ending⟩ }
        options).map Report.outcome := by
  have option : Program.locate { options with file := path } ⟨text, ending⟩ =
      .ok ⟨path, ⟨text, ending⟩, []⟩ := by
    simp [Program.locate, given]
  have line : Program.locate options ⟨path ++ 0x0A :: text, ending⟩ =
      .ok ⟨path, ⟨text, ending⟩, [prompt]⟩ := by
    simp [Program.locate, omitted, Reader.next_of_bare bare whole, WhiteSpace.trim_of_bare bare]
  simp only [runOptions, Surroundings.levelName, option, line]
  cases Log.Level.ofText? (if surroundings.debugging then utf8 "debug" else options.logLevel) with
  | none => rfl
  | some level =>
      dsimp only
      cases surroundings.read path with
      | error fault => rfl
      | ok source =>
          rw [← outcome_unlogged, ← outcome_unlogged (runSource _ _ options _ _ _),
            runSource_unlogged, runSource_unlogged, Option.map_map, Option.map_map]
          congr 1
          funext result
          exact conclude_outcome _ _ _ _ _ result

end Paths

section Arguments

/-- No argument names a program file. -/
def Unnamed (arguments : List Bytes) : Prop :=
  ∀ settings operands, Flag.scan flags arguments = .ok (settings, operands) →
    ∀ path, Setting.file path ∉ settings

theorem foldl_set_file {settings : List Setting} (silent : ∀ path, Setting.file path ∉ settings)
    (options : Options) (path : Bytes) :
    settings.foldl Options.set { options with file := path } =
      { settings.foldl Options.set options with file := path } := by
  induction settings generalizing options with
  | nil => rfl
  | cons setting rest ih =>
      have later : ∀ path, Setting.file path ∉ rest := fun path member =>
        silent path (List.mem_cons_of_mem setting member)
      have swapped : Options.set { options with file := path } setting =
          { options.set setting with file := path } := by
        cases setting with
        | file other => exact absurd List.mem_cons_self (silent other)
        | logLevel | loopLimit | noInput | tapeSize | timed => rfl
      rw [List.foldl_cons, List.foldl_cons, swapped, ih later]

/-- A path in front of arguments that name no file changes nothing but the file. -/
theorem parse_file {arguments : List Bytes} (unnamed : Unnamed arguments) (path : Bytes) :
    Options.parse (utf8 "-file" :: path :: arguments) =
      (Options.parse arguments).map fun options => { options with file := path } := by
  have front := (Setting.renders_file path).scan_eq arguments
  change Flag.scan flags (utf8 "-file" :: path :: arguments) = _ at front
  unfold Options.parse
  rw [front]
  cases scanned : Flag.scan flags arguments with
  | error fault => rfl
  | ok reached =>
      obtain ⟨settings, operands⟩ := reached
      cases operands with
      | nil => exact congrArg Except.ok (foldl_set_file (unnamed _ _ scanned) {} path)
      | cons first rest => rfl

theorem file_of_unnamed {arguments : List Bytes} {options : Options} (unnamed : Unnamed arguments)
    (parsed : Options.parse arguments = .ok options) : options.file = [] := by
  unfold Options.parse at parsed
  split at parsed
  · cases parsed
  · rename_i settings scanned
    cases parsed
    exact congrArg Options.file (foldl_set_file (unnamed _ _ scanned) {} [])
  · cases parsed

end Arguments

/-- The command line is a front end of `execute`. With arguments that parse, a level that is
known and a file that can be read, it comes to the result of executing the file on the lines of
standard input that the path has not taken; it writes the output of a program that succeeds and
nothing of one that fails, the time only in the first case, and the prompt only if the path was
read. So a path that is an option and the same path in front of the input give the same output
and the same error, whatever else happens, and whatever else the arguments are. -/
theorem command_line_is_front_end (fuel : Nat) (surroundings : Surroundings) :
    (∀ arguments options path source, Loads surroundings arguments options path source →
      surroundings.watch = .never → surroundings.closedOutput = none →
      (run fuel surroundings arguments).map Report.unlogged =
        (execute fuel .never source (inputOf options surroundings.stdin) options.limits).map
          (Report.ofResult options) ∧
      ∀ lines ∈ inputOf options surroundings.stdin, ∀ count,
        lines.take count = ((LineSource.reading surroundings.stdin).take
          (pathLines options + count)).drop (pathLines options)) ∧
    (∀ named unnamed options path text ending,
      Options.parse named = .ok { options with file := path } →
      Options.parse unnamed = .ok options → options.file = [] →
      path ≠ [] → WhiteSpace.Bare path → 0x0A ∉ path →
      (run fuel { surroundings with stdin := ⟨text, ending⟩ } named).map Report.outcome =
        (run fuel { surroundings with stdin := ⟨path ++ 0x0A :: text, ending⟩ }
          unnamed).map Report.outcome) ∧
    ∀ arguments path text ending, Unnamed arguments →
      path ≠ [] → WhiteSpace.Bare path → 0x0A ∉ path →
      (run fuel { surroundings with stdin := ⟨text, ending⟩ }
          (utf8 "-file" :: path :: arguments)).map Report.outcome =
        (run fuel { surroundings with stdin := ⟨path ++ 0x0A :: text, ending⟩ }
          arguments).map Report.outcome := by
  constructor
  · intro arguments options path source loads live writable
    constructor
    · rw [run_of_loads loads, live, writable]
      congr 1
      funext result
      unfold conclude Report.ofResult
      cases result.error <;> rfl
    · intro lines given count
      exact take_inputOf given count
  constructor
  · intro named unnamed options path text ending first second omitted given bare whole
    simp only [run, first, second]
    exact runOptions_of_line omitted given bare whole fuel surroundings text ending
  · intro arguments path text ending unnamed given bare whole
    simp only [run, parse_file unnamed]
    cases parsed : Options.parse arguments with
    | error refusal => rfl
    | ok options =>
        have omitted := file_of_unnamed unnamed parsed
        exact runOptions_of_line omitted given bare whole fuel surroundings text ending

/-- One program file, and standard input with its path and two lines for the program. -/
def sampleSurroundings : Surroundings where
  read path :=
    if path = utf8 "p.bf" then .ok (utf8 ",.,.") else .error ⟨"open", path, .notFound⟩
  stdin := .ofText (utf8 " p.bf \r\na\nb")

theorem sample_input_is_shared :
    (run 9 sampleSurroundings [utf8 "-time"]).map Report.unlogged =
        some { stdout := utf8 "ab", stderr := [prompt, .elapsed] } ∧
      (run 9 { sampleSurroundings with stdin := .ofText (utf8 "a\nb") }
          [utf8 "-time", utf8 "-file", utf8 "p.bf"]).map Report.outcome =
        (run 9 { sampleSurroundings with stdin := .ofText (utf8 "p.bf\na\nb") }
          [utf8 "-time"]).map Report.outcome := by
  obtain ⟨executes, agrees, _⟩ := command_line_is_front_end 9 sampleSurroundings
  have loads : Loads sampleSurroundings [utf8 "-time"] { timed := true }
      (WhiteSpace.trim (utf8 " p.bf ")) (utf8 ",.,.") :=
    ⟨rfl, by decide +kernel, .line rfl rfl, rfl⟩
  constructor
  · rw [(executes _ _ _ _ loads rfl rfl).1]
    decide +kernel
  · exact agrees _ _ { timed := true } (utf8 "p.bf") (utf8 "a\nb") .endOfInput rfl rfl rfl
      (by decide) (by decide +kernel) (by decide)

end CommandLine

end Brainfuck
