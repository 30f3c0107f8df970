import Brainfuck.Bundle.Config
import Brainfuck.Proofs.Delegation
import Brainfuck.Proofs.Paths

/-!
From a bundle to a run. The configuration of an accepted bundle is handed to the command line as
a list of arguments, and the command line takes it from there: the same script, the same limits,
and no failure that the check of the bundle could have foreseen.
-/

namespace Brainfuck

theorem bind_eq_ok_iff {Failure First Second : Type} {first : Except Failure First}
    {next : First → Except Failure Second} {value : Second} :
    first >>= next = .ok value ↔ ∃ middle, first = .ok middle ∧ next middle = .ok value := by
  cases first with
  | error failure => simp [bind, Except.bind]
  | ok middle => simp [bind, Except.bind]

theorem eq_ok_of_toOption {Failure Value : Type} {result : Except Failure Value} {value : Value}
    (found : result.toOption = some value) : result = .ok value := by
  cases result with
  | error failure => cases found
  | ok other => exact congrArg Except.ok (Option.some.inj found)

namespace Bundle

theorem isScript_ne_nil {name : Bytes} (script : isScript name = true) : name ≠ [] := by
  intro empty
  subst empty
  revert script
  decide

namespace Config

section Reading

variable {read : Bytes → Except Files.Fault Bytes}

theorem entrypointOf_eq_ok {spec : Spec} {name : Bytes} (found : entrypointOf spec = .ok name) :
    isScript name = true := by
  unfold entrypointOf at found
  split at found
  · split at found
    · cases found
      assumption
    · cases found
  · cases found

theorem checkScript_eq_ok {root name : Bytes} (checked : checkScript read root name = .ok ()) :
    ∃ script, read (Path.join [root, name]) = .ok script ∧ Brackets.validate script = none := by
  unfold checkScript at checked
  split at checked
  · split at checked <;> cases checked
  · rename_i script found
    split at checked
    · cases checked
    · exact ⟨script, found, by assumption⟩

theorem limitsOf_eq_ok {spec : Spec} {limits : Limits} (found : limitsOf spec = .ok limits) :
    limits.check = none := by
  unfold limitsOf at found
  obtain ⟨tapeSize, _, found⟩ := bind_eq_ok_iff.mp found
  obtain ⟨loopLimit, _, found⟩ := bind_eq_ok_iff.mp found
  split at found
  · cases found
  · cases found
    assumption

/-- What is known of a configuration that was read: its script is there and has its brackets in
order, and its limits are allowed. -/
theorem read_eq_ok {bundle : Bytes} {config : Config} (accepted : Config.read read bundle = .ok config) :
    config.fullPath ≠ [] ∧ config.limits.check = none ∧
      ∃ script, read config.fullPath = .ok script ∧ Brackets.validate script = none := by
  unfold Config.read at accepted
  obtain ⟨spec, _, accepted⟩ := bind_eq_ok_iff.mp accepted
  obtain ⟨root, _, accepted⟩ := bind_eq_ok_iff.mp accepted
  obtain ⟨name, named, accepted⟩ := bind_eq_ok_iff.mp accepted
  obtain ⟨⟨⟩, checked, accepted⟩ := bind_eq_ok_iff.mp accepted
  obtain ⟨limits, limited, accepted⟩ := bind_eq_ok_iff.mp accepted
  cases accepted
  have filled := isScript_ne_nil (entrypointOf_eq_ok named)
  exact ⟨Path.join_ne_nil (List.mem_cons_of_mem root List.mem_cons_self) filled,
    limitsOf_eq_ok limited, checkScript_eq_ok checked⟩

end Reading

section Arguments

open CommandLine

/-- The arguments after the word that asks for the command line. -/
def settings (config : Config) : List Bytes :=
  [utf8 "-file", config.fullPath,
    utf8 "-tape-size", Integer.ofInt config.limits.tapeSize.toInt,
    utf8 "-loop-limit", Integer.ofInt config.limits.loopLimit.toInt]

/-- The options that a configuration asks for; all others keep their defaults. -/
def options (config : Config) : Options :=
  { file := config.fullPath, limits := config.limits }

theorem select?_arguments (config : Config) :
    select? config.arguments = some config.settings := by
  have first : config.arguments = keyword :: config.settings := rfl
  unfold select?
  rw [first, List.erase_cons_head, if_pos (by simp)]

/-- What follows a name is its value, so neither a path nor a negative limit is taken for a flag. -/
theorem settings_rendering (config : Config) :
    Rendering [.file config.fullPath, .tapeSize config.limits.tapeSize,
      .loopLimit config.limits.loopLimit] config.settings := by
  have tapeSize (size : Int64) :
      Setting.Renders (.tapeSize size) [utf8 "-tape-size", Integer.ofInt size.toInt] :=
    Flag.Renders.apart .one nofun (.integer Setting.tapeSize (Integer.ofInt_literal size.toInt))
  have loopLimit (limit : Int64) :
      Setting.Renders (.loopLimit limit) [utf8 "-loop-limit", Integer.ofInt limit.toInt] :=
    Flag.Renders.apart .one nofun (.integer Setting.loopLimit (Integer.ofInt_literal limit.toInt))
  exact .next (Setting.renders_file _) (.next (tapeSize _) (.next (loopLimit _) .nothing))

theorem parse_settings (config : Config) :
    Options.parse config.settings = .ok config.options :=
  config.settings_rendering.parse_eq

end Arguments

section Running

open CommandLine

/-- The level is left at its default, unless the build overrides it. -/
theorem level_of_options (config : Config) (surroundings : Surroundings) :
    Log.Level.ofText? (surroundings.levelName config.options) =
      some (if surroundings.debugging then .debug else .warning) := by
  unfold Surroundings.levelName
  cases surroundings.debugging with
  | true => exact (by decide +kernel : Log.Level.ofText? (utf8 "debug") = some .debug)
  | false => exact (by decide +kernel : Log.Level.ofText? (utf8 "warn") = some .warning)

theorem run_settings {config : Config} {surroundings : Surroundings} {script : Bytes}
    (named : config.fullPath ≠ []) (found : surroundings.read config.fullPath = .ok script)
    (fuel : Nat) :
    (CommandLine.run fuel surroundings config.settings).map Report.unlogged =
      (execute fuel surroundings.watch script (some (.reading surroundings.stdin))
        config.limits).map (conclude config.options surroundings.closedOutput [] []) := by
  have leveled : (Log.Level.ofText? (surroundings.levelName config.options)).isSome = true := by
    rw [level_of_options, Option.isSome_some]
  have loads : Loads surroundings config.settings config.options config.fullPath script :=
    ⟨parse_settings config, leveled, .option named, found⟩
  have input : CommandLine.inputOf config.options surroundings.stdin =
      some (.reading surroundings.stdin) := by
    simp [CommandLine.inputOf, pathLines, options, named, LineSource.drop]
  have silent : promptOf config.options = [] := if_neg named
  rw [run_of_loads loads, input, silent]
  rfl

/-- An accepted bundle runs cleanly. Its arguments ask for the command line and are read as just
its script and its limits; the script is the one that was validated; and a run that ends prints
what the script writes or fails for a reason that no check of the bundle could know, whenever it
may be asked to stop. Only a build for debugging logs anything. -/
theorem accepted_bundle_runs {read : Bytes → Except Files.Fault Bytes} {bundle : Bytes}
    {config : Config} (accepted : Config.read read bundle = .ok config) :
    select? config.arguments = some config.settings ∧
    Options.parse config.settings = .ok { file := config.fullPath, limits := config.limits } ∧
    ∃ script, read config.fullPath = .ok script ∧ Brackets.validate script = none ∧
      ∀ surroundings : Surroundings, surroundings.read = read → ∀ fuel,
        (CommandLine.run fuel surroundings config.settings).map Report.unlogged =
          (execute fuel surroundings.watch script (some (.reading surroundings.stdin))
            config.limits).map (conclude config.options surroundings.closedOutput [] []) ∧
        ∀ report, CommandLine.run fuel surroundings config.settings = some report →
          (surroundings.debugging = false → report.log = []) ∧
          ((∃ output, report.unlogged = { stdout := output } ∧
              execute fuel .never script (some (.reading surroundings.stdin)) config.limits =
                some ⟨output, none⟩) ∨
            ∃ error, report.unlogged = { error := some error } ∧
              Excused surroundings config.limits error) ∧
          ∀ code, code = ExitCode.usage ∨ code = ExitCode.malformed →
            surroundings.stdin.ending.exitCode ≠ code →
            (∀ cause ∈ surroundings.closedOutput, cause.exitCode ≠ code) →
            report.exitCode ≠ code := by
  obtain ⟨named, checked, script, found, valid⟩ := read_eq_ok accepted
  refine ⟨select?_arguments config, parse_settings config, script, found, valid, ?_⟩
  intro surroundings same fuel
  subst same
  have equation := run_settings named found fuel
  refine ⟨equation, fun report ran => ?_⟩
  rw [ran] at equation
  obtain ⟨result, halted, shown⟩ := Option.map_eq_some_iff.mp equation.symm
  have untimed : config.options.timed = false := rfl
  have verdict := conclude_excused untimed checked valid halted
  rw [shown] at verdict
  refine ⟨fun quiet => ?_, verdict, ?_⟩
  · have leveled := level_of_options config surroundings
    rw [quiet] at leveled
    exact run_log (parse_settings config) leveled rfl ran
  · intro code bad input output
    change report.unlogged.exitCode ≠ code
    rcases verdict with ⟨_, printed, _⟩ | ⟨error, failed, excused⟩
    · rw [printed]
      rcases bad with rfl | rfl <;> nofun
    · rw [failed]
      exact excused_exitCode_ne excused bad input output

/-- A bundle with a script below its root, and white space around the number of an
annotation. -/
def sample : Files :=
  let files := Files.ofWorkingDirectory (utf8 "/w")
  let files := files.place (utf8 "b/config.json") (.file
    (utf8 "\x7b\"root\":\x7b\"path\":\"r\"\x7d,\"process\":\x7b\"args\":[\"p.b\"]\x7d," ++
      utf8 "\"annotations\":\x7b\"io.buffy.tape-size\":\" 2 \"\x7d\x7d"))
  files.place (utf8 "b/r/p.b") (.file (utf8 ",[+.>]"))

def sampleSurroundings (watch : Watch) : Surroundings where
  read := sample.read
  stdin := .ofText (utf8 "a\n")
  watch := watch

theorem sample_bundle_runs :
    Config.read sample.read (utf8 "b") = .ok ⟨utf8 "b/r", utf8 "p.b", [], ⟨2, -1⟩⟩ ∧
      (CommandLine.run 20 (sampleSurroundings .never)
        (settings ⟨utf8 "b/r", utf8 "p.b", [], ⟨2, -1⟩⟩)).map Report.unlogged =
          some { stdout := utf8 "b" } ∧
      (CommandLine.run 20 (sampleSurroundings (.after 3 .deadlineExceeded))
        (settings ⟨utf8 "b/r", utf8 "p.b", [], ⟨2, -1⟩⟩)).map Report.unlogged =
          some { error := some (.interrupted .deadlineExceeded) } := by
  have accepted : Config.read sample.read (utf8 "b") =
      .ok ⟨utf8 "b/r", utf8 "p.b", [], ⟨2, -1⟩⟩ := eq_ok_of_toOption (by decide +kernel)
  have content : sample.read (Path.join [utf8 "b/r", utf8 "p.b"]) = .ok (utf8 ",[+.>]") :=
    eq_ok_of_toOption (by decide +kernel)
  obtain ⟨_, _, script, found, _, runs⟩ := accepted_bundle_runs accepted
  cases found.symm.trans content
  exact ⟨accepted, (runs (sampleSurroundings .never) rfl 20).1.trans rfl,
    (runs (sampleSurroundings (.after 3 .deadlineExceeded)) rfl 20).1.trans rfl⟩

end Running

end Config

end Bundle

end Brainfuck
