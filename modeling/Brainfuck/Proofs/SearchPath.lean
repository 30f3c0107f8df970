import Brainfuck.Proofs.BundleRun
import Brainfuck.Proofs.System
import Mathlib.Data.List.Basic

/-!
The search path on its way from a bundle to a process. It is taken apart when the configuration is
read and put together again when the process is made, and nothing is lost in between. A search path
that is set to nothing is not the same as none.
-/

namespace Brainfuck

namespace Bundle

section Splitting

variable {environment rest : List Bytes} {entry value : Bytes}

/-- The first entry that sets the search path sets it to this text. -/
def SetsPath (environment : List Bytes) (value : Bytes) : Prop :=
  ∃ before after, environment = before ++ (pathMark ++ value) :: after ∧
    ∀ earlier ∈ before, ¬ pathMark <+: earlier

theorem after?_mark (value : Bytes) : Bytes.after? pathMark (pathMark ++ value) = some value :=
  List.isPrefixOf?_eq_some_iff_append_eq.mpr rfl

theorem after?_other (other : ¬ pathMark <+: entry) : Bytes.after? pathMark entry = none := by
  cases found : Bytes.after? pathMark entry with
  | none => rfl
  | some value => exact absurd ⟨value, List.isPrefixOf?_eq_some_iff_append_eq.mp found⟩ other

theorem searchPath_mark (value : Bytes) (rest : List Bytes) :
    searchPath ((pathMark ++ value) :: rest) = Bytes.splitOn 0x3A value := by
  rw [searchPath, after?_mark]

theorem searchPath_other (other : ¬ pathMark <+: entry) (rest : List Bytes) :
    searchPath (entry :: rest) = searchPath rest := by
  rw [searchPath, after?_other other]

theorem SetsPath.searchPath_eq (sets : SetsPath environment value) :
    searchPath environment = Bytes.splitOn 0x3A value := by
  obtain ⟨before, after, rfl, fresh⟩ := sets
  induction before with
  | nil => exact searchPath_mark value after
  | cons entry before ih =>
      rw [List.cons_append, searchPath_other (fresh entry List.mem_cons_self)]
      apply ih
      intro earlier member
      exact fresh earlier (List.mem_cons_of_mem entry member)

theorem exists_setsPath (some : ∃ entry ∈ environment, pathMark <+: entry) :
    ∃ value, SetsPath environment value := by
  induction environment with
  | nil =>
      obtain ⟨_, member, _⟩ := some
      cases member
  | cons entry rest ih =>
      by_cases marked : pathMark <+: entry
      · obtain ⟨value, rfl⟩ := marked
        exact ⟨value, [], rest, rfl, nofun⟩
      · have later : ∃ entry ∈ rest, pathMark <+: entry := by
          obtain ⟨found, member, begins⟩ := some
          rcases List.mem_cons.mp member with rfl | member
          · exact absurd begins marked
          · exact ⟨found, member, begins⟩
        obtain ⟨value, before, after, rfl, fresh⟩ := ih later
        refine ⟨value, entry :: before, after, rfl, ?_⟩
        intro earlier member
        rcases List.mem_cons.mp member with rfl | member
        · exact marked
        · exact fresh earlier member

theorem searchPath_unset (unset : ∀ entry ∈ environment, ¬ pathMark <+: entry) :
    searchPath environment = [] := by
  induction environment with
  | nil => rfl
  | cons entry rest ih =>
      rw [searchPath_other (unset entry List.mem_cons_self)]
      apply ih
      intro later member
      exact unset later (List.mem_cons_of_mem entry member)

theorem SetsPath.searchPath_ne_nil (sets : SetsPath environment value) :
    searchPath environment ≠ [] := by
  rw [sets.searchPath_eq]
  exact Bytes.splitOn_ne_nil 0x3A value

theorem SetsPath.joined (sets : SetsPath environment value) :
    Bytes.joinWith 0x3A (searchPath environment) = value := by
  rw [sets.searchPath_eq, Bytes.joinWith_splitOn]

theorem searchPath_eq_nil_iff :
    searchPath environment = [] ↔ ∀ entry ∈ environment, ¬ pathMark <+: entry := by
  constructor
  · intro empty entry member begins
    obtain ⟨value, sets⟩ := exists_setsPath ⟨entry, member, begins⟩
    exact sets.searchPath_ne_nil empty
  · exact searchPath_unset

theorem setsPath_iff (some : ∃ entry ∈ environment, pathMark <+: entry) :
    SetsPath environment value ↔ Bytes.joinWith 0x3A (searchPath environment) = value := by
  constructor
  · exact SetsPath.joined
  · rintro rfl
    obtain ⟨value, sets⟩ := exists_setsPath some
    rw [sets.joined]
    exact sets

end Splitting

theorem Config.read_path {read : Bytes → Except Files.Fault Bytes} {bundle : Bytes}
    {config : Config} (accepted : Config.read read bundle = .ok config) :
    ∃ spec, readSpec read bundle = .ok spec ∧ config.path = searchPath (environmentOf spec) := by
  unfold Config.read at accepted
  obtain ⟨spec, found, accepted⟩ := bind_eq_ok_iff.mp accepted
  obtain ⟨root, _, accepted⟩ := bind_eq_ok_iff.mp accepted
  obtain ⟨name, _, accepted⟩ := bind_eq_ok_iff.mp accepted
  obtain ⟨⟨⟩, _, accepted⟩ := bind_eq_ok_iff.mp accepted
  obtain ⟨limits, _, accepted⟩ := bind_eq_ok_iff.mp accepted
  cases accepted
  exact ⟨spec, found, rfl⟩

end Bundle

namespace Host

/-- The search path that a process sees. Where there are several, the last one counts. -/
def Process.searchPath? (inherited : List Bytes) (process : Process) : Option Bytes :=
  (process.environment.getD inherited).reverse.findSome? (Bytes.after? Bundle.pathMark)

theorem searchPath?_of_given {process : Process} {inherited given : List Bytes} {value : Bytes}
    (environment : process.environment = some (given ++ [Bundle.pathMark ++ value])) :
    process.searchPath? inherited = some value := by
  rw [Process.searchPath?, environment, Option.getD_some, List.reverse_append,
    List.reverse_singleton, List.singleton_append, List.findSome?_cons, Bundle.after?_mark]

theorem spawn_environment {host after : Host} {config : Bundle.Config} {input : Input} {pid : Pid}
    (spawned : host.spawn config input = .ok (pid, after)) :
    ∃ process, after.processes.get? pid = some process ∧
      process.environment = host.environmentFor config := by
  unfold spawn at spawned
  obtain ⟨directory, _, made⟩ := bind_eq_ok_iff.mp spawned
  cases made
  exact ⟨_, Table.get?_put_self _ _ _, rfl⟩

end Host

namespace Service

variable {service after : Service} {interruption : Option Interruption} {creation : Creation}
  {pid : Pid}

theorem launch_environment {config : Bundle.Config}
    (made : service.launch interruption creation config = (.ok pid, after)) :
    ∃ process, after.host.processes.get? pid = some process ∧
      process.environment = service.host.environmentFor config := by
  rcases launch_cases service interruption creation config with
    ⟨error, failed⟩ | ⟨child, host, files, spawned, launched⟩
  · rw [failed] at made
    cases made
  · obtain ⟨process, known, given⟩ := Host.spawn_environment spawned
    rw [launched] at made
    cases made
    exact ⟨process, known, given⟩

theorem create_environment (made : service.create interruption creation = (.ok pid, after)) :
    ∃ config process,
      Bundle.Config.read service.host.files.read creation.bundle = .ok config ∧
      after.host.processes.get? pid = some process ∧
      process.environment = service.host.environmentFor config := by
  unfold create at made
  split at made
  · cases made
  · split at made
    · cases made
    · rename_i config read
      split at made
      · cases made
      · obtain ⟨process, known, given⟩ := launch_environment made
        exact ⟨config, process, read, known, given⟩

end Service

open Brainfuck.Bundle in
/-- A search path is found exactly where one is set. Its directories have no colons in them, and put
together they are what the first entry sets, to the byte. A task that is created is given that text
after all that the service has in its environment, and it inherits the environment as it is if its
bundle sets no search path. -/
theorem search_path_reaches_task :
    (∀ environment, searchPath environment = [] ↔ ∀ entry ∈ environment, ¬ pathMark <+: entry) ∧
    (∀ environment, (∃ entry ∈ environment, pathMark <+: entry) →
      searchPath environment ≠ [] ∧
      (∀ directory ∈ searchPath environment, 0x3A ∉ directory) ∧
      ∀ value, SetsPath environment value ↔
        Bytes.joinWith 0x3A (searchPath environment) = value) ∧
    ∀ (service after : Service) (interruption : Option Interruption)
      (creation : Service.Creation) (pid : Pid),
      service.create interruption creation = (.ok pid, after) →
      ∃ spec process, Config.readSpec service.host.files.read creation.bundle = .ok spec ∧
        after.host.processes.get? pid = some process ∧
        (∀ value, SetsPath (Config.environmentOf spec) value →
          process.environment = some (service.host.environment ++ [pathMark ++ value]) ∧
          process.searchPath? service.host.environment = some value) ∧
        ((∀ entry ∈ Config.environmentOf spec, ¬ pathMark <+: entry) →
          process.environment = none) := by
  refine ⟨fun environment => searchPath_eq_nil_iff, ?_, ?_⟩
  · intro environment some
    obtain ⟨value, sets⟩ := exists_setsPath some
    refine ⟨sets.searchPath_ne_nil, ?_, fun value => setsPath_iff some⟩
    intro directory member
    rw [sets.searchPath_eq] at member
    exact Bytes.not_mem_of_mem_splitOn member
  · intro service after interruption creation pid made
    obtain ⟨config, process, read, known, given⟩ := Service.create_environment made
    obtain ⟨spec, parsed, path⟩ := Config.read_path read
    rw [Host.environmentFor, path] at given
    refine ⟨spec, process, parsed, known, ?_, ?_⟩
    · intro value sets
      rw [if_neg sets.searchPath_ne_nil, sets.joined] at given
      exact ⟨given, Host.searchPath?_of_given given⟩
    · intro unset
      rw [if_pos (searchPath_unset unset)] at given
      exact given

/-- A service with a search path of its own, and a bundle that sets one with nothing at its ends and
in the middle, and then another. -/
def equipped : Service where
  host :=
    { environment := [utf8 "PATH=/sbin", utf8 "TERM=x"]
      files :=
        let files := Files.ofWorkingDirectory (utf8 "/w")
        let files := files.place (utf8 "c/config.json") (.file
          (utf8 "\x7b\"root\":\x7b\"path\":\"/w\"\x7d,\"process\":\x7b\"args\":[\"p.b\"]," ++
            utf8 "\"env\":[\"A=1\",\"PATH=:/bin::\",\"PATH=/x\"]\x7d\x7d"))
        files.place (utf8 "p.b") (.file (utf8 "+")) }

theorem equipped_path_reaches_task :
    ∃ pid after process,
      equipped.create none ⟨utf8 "t", utf8 "c", {}⟩ = (.ok pid, after) ∧
      after.host.processes.get? pid = some process ∧
      process.environment = some [utf8 "PATH=/sbin", utf8 "TERM=x", utf8 "PATH=:/bin::"] ∧
      process.searchPath? equipped.host.environment = some (utf8 ":/bin::") := by
  have made : (equipped.create none ⟨utf8 "t", utf8 "c", {}⟩).1.toOption = some 2 := by
    decide +kernel
  have read : (Bundle.Config.readSpec equipped.host.files.read (utf8 "c")).toOption.map
      Bundle.Config.environmentOf =
        some [utf8 "A=1", utf8 "PATH=:/bin::", utf8 "PATH=/x"] := by decide +kernel
  have created : equipped.create none ⟨utf8 "t", utf8 "c", {}⟩ =
      (.ok 2, (equipped.create none ⟨utf8 "t", utf8 "c", {}⟩).2) := by
    rw [← eq_ok_of_toOption made]
  obtain ⟨_, _, reaches⟩ := search_path_reaches_task
  obtain ⟨spec, process, parsed, known, set, _⟩ := reaches _ _ _ _ _ created
  rw [parsed] at read
  have sets : Bundle.SetsPath (Bundle.Config.environmentOf spec) (utf8 ":/bin::") := by
    rw [Option.some.inj read]
    exact ⟨[utf8 "A=1"], [utf8 "PATH=/x"], by decide +kernel, by decide +kernel⟩
  obtain ⟨given, seen⟩ := set _ sets
  exact ⟨2, _, process, created, known, given.trans (by decide +kernel), seen⟩

end Brainfuck
