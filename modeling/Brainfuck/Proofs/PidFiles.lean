import Brainfuck.Manager
import Brainfuck.Proofs.Decimal
import Brainfuck.Proofs.FileTrees

/-!
Pid files between two processes. Who writes and who reads work out the path of the file on their
own, each from its working directory, so what is read is what was written as long as the two
directories have the same parent. Since trees have no symbolic links, files are told apart by their
cleaned paths. A pid that was written disturbs the pid files of other ids only if their path leads
through the file.
-/

namespace Brainfuck.PidFile

section Paths

variable {files : Files} {id path : Bytes} {place other : Location}

/-- The place itself or another one with the same parent. -/
def Beside (place other : Location) : Prop :=
  other = place ∨ other.dropLast = place.dropLast ∧ ∀ name ∈ place ++ other, Path.slash ∉ name

theorem Beside.directory (near : Beside place other) :
    Path.directory (Path.rooted other) = Path.directory (Path.rooted place) := by
  rcases near with rfl | ⟨parents, whole⟩
  · rfl
  · apply Path.directory_of_siblings _ _ parents
    · exact fun name member => whole name (List.mem_append_right place member)
    · exact fun name member => whole name (List.mem_append_left other member)

theorem path_eq_ok_iff :
    PidFile.path files id = .ok path ↔
      files.node? files.workingDirectory = some .directory ∧
      path = Path.join [Path.directory (Path.rooted files.workingDirectory), id, name] := by
  unfold PidFile.path Files.currentDirectory
  by_cases stands : files.node? files.workingDirectory = some .directory
  · simp [stands, Path.rooted, eq_comm]
  · simp [stands]

/-- Every pid file stands at a place that its path tells. -/
theorem path_rooted (named : PidFile.path files id = .ok path) :
    ∃ place, place ≠ [] ∧ Path.Plain place ∧ path = Path.rooted place := by
  obtain ⟨-, rfl⟩ := path_eq_ok_iff.mp named
  have absolute := Path.isAbsolute_directory (Path.isAbsolute_rooted files.workingDirectory)
  have plain : Path.Plain [name] := by
    intro other member
    rw [List.mem_singleton.mp member]
    decide
  obtain ⟨before, joined, plain⟩ := Path.join_concat absolute plain id
  exact ⟨before ++ [name], by simp, plain, joined⟩

/-- The path is the same in all directories with one parent. -/
theorem path_beside {later : Files} (named : PidFile.path files id = .ok path)
    (near : Beside files.workingDirectory other) (stands : later.node? other = some .directory) :
    PidFile.path (later.inDirectory other) id = .ok path := by
  obtain ⟨-, rfl⟩ := path_eq_ok_iff.mp named
  refine path_eq_ok_iff.mpr ⟨(Files.node?_inDirectory later other other).trans stands, ?_⟩
  rw [← near.directory]
  rfl

end Paths

section Writing

variable {files later : Files} {refusals : Refusals} {temporary id path : Bytes} {pid : Int64}
  {place other : Location}

theorem replace_eq_ok {content : Bytes}
    (replaced : replace files temporary path content = .ok later) :
    ∃ place, files.slot path = .ok place ∧ later = files.put place (.file content) := by
  unfold replace at replaced
  dsimp only at replaced
  split at replaced
  · cases replaced
  · cases replaced
  · rename_i place _ found
    cases replaced
    exact ⟨place, found, rfl⟩

/-- What a write leaves behind: the pid as a decimal at the place of the path, and nothing else. -/
structure Written (files : Files) (id : Bytes) (pid : Int64) (later : Files) (place : Location) :
    Prop where
  filled : place ≠ []
  plain : Path.Plain place
  named : PidFile.path files id = .ok (Path.rooted place)
  slotted : files.slot (Path.rooted place) = .ok place
  result : later = files.put place (.file (Integer.ofInt pid.toInt))

theorem written_of_write (written : write files refusals temporary id pid = (.ok (), later)) :
    ∃ place, Written files id pid later place := by
  unfold write at written
  split at written
  · cases written
  · rename_i path named
    split at written
    · cases written
    · rename_i after replaced
      obtain ⟨-, rfl⟩ := Prod.mk.inj written
      obtain ⟨place, slotted, result⟩ := replace_eq_ok replaced
      obtain ⟨names, some, plain, rfl⟩ := path_rooted named
      obtain rfl := Files.slot_rooted plain some slotted
      exact ⟨place, some, plain, named, slotted, result⟩

theorem Written.free (done : Written files id pid later place) :
    files.node? place ≠ some .directory :=
  (Files.slot_free done.slotted).2

/-- A pid file takes the place of no directory. -/
theorem Written.directory_iff (done : Written files id pid later place)
    (other : Location) :
    later.node? other = some .directory ↔ files.node? other = some .directory := by
  rw [done.result]
  constructor
  · exact fun stands => Files.node?_of_put_file stands nofun
  · intro stands
    rw [Files.node?_put_ne, stands]
    rintro rfl
    exact done.free stands

theorem Written.read_eq (done : Written files id pid later place)
    (near : Beside files.workingDirectory other) (stands : later.node? other = some .directory) :
    read (later.inDirectory other) id = .ok pid := by
  have named := path_beside done.named near stands
  have text : (later.inDirectory other).read (Path.rooted place) =
      .ok (Integer.ofInt pid.toInt) := by
    rw [Files.read_inDirectory (Path.isAbsolute_rooted place), done.result]
    exact Files.read_of_put done.slotted _
  simp [read, named, text, Integer.readDecimal_ofInt, bind, Except.bind, pure, Except.pure]

end Writing

section Others

variable {files later : Files} {id other target : Bytes} {pid : Int64} {place here : Location}

theorem Written.path_eq (done : Written files id pid later place)
    (named : PidFile.path (files.inDirectory here) other = .ok target) :
    PidFile.path (later.inDirectory here) other = .ok target := by
  obtain ⟨stands, rfl⟩ := path_eq_ok_iff.mp named
  refine path_eq_ok_iff.mpr ⟨?_, rfl⟩
  exact (done.directory_iff here).mpr stands

/-- The pid file of another id is as it was, if the way to it does not lead through the file that
was written. -/
theorem Written.read_apart (done : Written files id pid later place)
    (named : PidFile.path (files.inDirectory here) other = .ok target)
    (apart : target ≠ Path.rooted place) (beyond : ¬ Path.rooted place ++ [Path.slash] <+: target) :
    read (later.inDirectory here) other = read (files.inDirectory here) other := by
  obtain ⟨names, some, plain, rfl⟩ := path_rooted named
  have away : ¬ place <+: names := by
    rintro ⟨lower, rfl⟩
    by_cases empty : lower = []
    · rw [empty, List.append_nil] at apart
      exact apart rfl
    · exact beyond ((Path.rooted_below_iff done.plain plain done.filled some).mpr
        ⟨lower, empty, rfl⟩)
  have text : (later.inDirectory here).read (Path.rooted names) =
      (files.inDirectory here).read (Path.rooted names) := by
    rw [Files.read_inDirectory (Path.isAbsolute_rooted names),
      Files.read_inDirectory (Path.isAbsolute_rooted names), done.result]
    exact Files.read_put_apart plain some away
  simp only [read, named, done.path_eq named, bind, Except.bind, text]

theorem Written.slotted_after (done : Written files id pid later place) :
    later.slot (Path.rooted place) = .ok place := by
  rw [done.result]
  exact Files.slot_put done.slotted done.free _

theorem read_of_fault {path : Bytes} {fault : Files.Fault}
    (named : PidFile.path files id = .ok path) (failed : files.read path = .error fault) :
    read files id = .error fault.toError := by
  simp [read, named, failed, bind, Except.bind, throw, throwThe, MonadExceptOf.throw]

/-- There is no pid file below another one. What was missing on the way may be no directory once
that one is written. -/
theorem Written.read_through (done : Written files id pid later place)
    (named : PidFile.path (files.inDirectory here) other = .ok target)
    (through : Path.rooted place ++ [Path.slash] <+: target) :
    ∃ before after : Files.Cause,
      read (files.inDirectory here) other = .error (Files.Fault.toError ⟨"open", target, before⟩) ∧
      read (later.inDirectory here) other = .error (Files.Fault.toError ⟨"open", target, after⟩) ∧
      (before = after ∨ before = .notFound ∧ after = .notDirectory) := by
  obtain ⟨names, some, plain, rfl⟩ := path_rooted named
  obtain ⟨lower, more, rfl⟩ :=
    (Path.rooted_below_iff done.plain plain done.filled some).mp through
  have absolute := Path.isAbsolute_rooted (place ++ lower)
  have first := Files.read_below plain more done.slotted
  have second := Files.read_below plain more done.slotted_after
  rw [← Files.read_inDirectory absolute files here] at first
  rw [← Files.read_inDirectory absolute later here] at second
  refine ⟨_, _, read_of_fault named first, read_of_fault (done.path_eq named) second, ?_⟩
  have present : (later.node? place).isNone = false := by
    rw [done.result, Files.node?_put_self done.filled]
    rfl
  rw [present]
  cases Files.wordingFault? (Path.rooted (place ++ lower)) with
  | some cause => exact .inl rfl
  | none =>
      cases (files.node? place).isNone with
      | true => exact .inr ⟨rfl, rfl⟩
      | false => exact .inl rfl

end Others

section Stopping

theorem stop_of_read {host : Host} {id : Bytes} {pid : Int64}
    (known : read host.files id = .ok pid) :
    (Manager.stop host id).1 = .ok ⟨pid.toInt, Manager.killedStatus⟩ := by
  rw [Manager.stop, known]

/-- A pid that was written is read, and reported when the task is stopped, in every working
directory with the same parent, and a later pid takes its place. Other pid files are as they were.
Those whose path leads through the file could not be read before and cannot be read after, and no
more can change than that a directory is missing on the way where nothing was found. -/
theorem pid_reaches_stop {files later : Files} {refusals : Refusals} {temporary id : Bytes}
    {pid : Int64} (written : write files refusals temporary id pid = (.ok (), later)) :
    ∃ path, PidFile.path files id = .ok path ∧
      later.node? files.workingDirectory = some .directory ∧
      (∀ other, Beside files.workingDirectory other → later.node? other = some .directory →
        read (later.inDirectory other) id = .ok pid ∧
        (∀ host : Host, host.files = later.inDirectory other →
          (Manager.stop host id).1 = .ok ⟨pid.toInt, Manager.killedStatus⟩) ∧
        ∀ more draft number replaced,
          write (later.inDirectory other) more draft id number = (.ok (), replaced) →
          ∀ again, Beside other again → replaced.node? again = some .directory →
            read (replaced.inDirectory again) id = .ok number) ∧
      ∀ here other target, PidFile.path (files.inDirectory here) other = .ok target →
        target ≠ path →
        (¬ path ++ [Path.slash] <+: target →
          read (later.inDirectory here) other = read (files.inDirectory here) other) ∧
        (path ++ [Path.slash] <+: target → ∃ before after : Files.Cause,
          read (files.inDirectory here) other =
            .error (Files.Fault.toError ⟨"open", target, before⟩) ∧
          read (later.inDirectory here) other =
            .error (Files.Fault.toError ⟨"open", target, after⟩) ∧
          (before = after ∨ before = .notFound ∧ after = .notDirectory)) := by
  obtain ⟨place, done⟩ := written_of_write written
  refine ⟨Path.rooted place, done.named, ?own, ?near, ?others⟩
  case own =>
    exact (done.directory_iff _).mpr (path_eq_ok_iff.mp done.named).1
  case near =>
    intro other near stands
    have known := done.read_eq near stands
    refine ⟨known, ?_, ?_⟩
    · intro host seen
      exact stop_of_read (seen ▸ known)
    · intro more draft number replaced rewritten again beside there
      obtain ⟨_, redone⟩ := written_of_write rewritten
      exact redone.read_eq beside there
  case others =>
    intro here other target named apart
    exact ⟨done.read_apart named apart, done.read_through named⟩

/-- Two working directories with one parent, in which one task has a pid file. -/
def neighbours : Files where
  nodes :=
    [([utf8 "w"], .directory), ([utf8 "w", utf8 "s"], .directory),
      ([utf8 "w", utf8 "t"], .directory), ([utf8 "w", utf8 "a"], .directory),
      ([utf8 "w", utf8 "b"], .directory), ([utf8 "w", utf8 "b", name], .file (utf8 "7"))]
  workingDirectory := [utf8 "w", utf8 "s"]

def noted (pid : Int64) : Files :=
  neighbours.put [utf8 "w", utf8 "a", name] (.file (Integer.ofInt pid.toInt))

theorem lowest_pid_is_read_next_door :
    write neighbours {} (utf8 ".bf.pid") (utf8 "./a/") Int64.minValue =
      (.ok (), noted Int64.minValue) ∧
    read ((noted Int64.minValue).inDirectory [utf8 "w", utf8 "t"]) (utf8 "./a/") =
      .ok Int64.minValue ∧
    (Manager.stop { files := (noted Int64.minValue).inDirectory [utf8 "w", utf8 "t"] }
      (utf8 "./a/")).1 = .ok ⟨Int64.minValue.toInt, Manager.killedStatus⟩ ∧
    read (noted Int64.minValue) (utf8 "b") = .ok 7 := by
  have written : write neighbours {} (utf8 ".bf.pid") (utf8 "./a/") Int64.minValue =
      (.ok (), noted Int64.minValue) := rfl
  obtain ⟨path, named, -, near, others⟩ := pid_reaches_stop written
  have beside : Beside neighbours.workingDirectory [utf8 "w", utf8 "t"] :=
    .inr ⟨rfl, by decide +kernel⟩
  obtain ⟨known, stopped, -⟩ := near _ beside (by decide +kernel)
  have told : path = utf8 "/w/a/bf.pid" := (Except.ok.inj named).symm
  subst told
  have kept := others [utf8 "w", utf8 "s"] (utf8 "b") (utf8 "/w/b/bf.pid") rfl (by decide +kernel)
  exact ⟨written, known, stopped _ rfl, kept.1 (by decide +kernel)⟩

/-- Where the way to a pid file leads through another one, it fails otherwise once that one is
written: what was missing is then no directory. -/
theorem nested_pid_file_fails_otherwise :
    ¬ ∀ (files later : Files) (refusals : Refusals) (temporary id other path target : Bytes)
        (pid : Int64),
      write files refusals temporary id pid = (.ok (), later) → PidFile.path files id = .ok path →
      PidFile.path files other = .ok target → target ≠ path →
      read later other = read files other := by
  intro unchanged
  have same := unchanged neighbours (noted 2) {} (utf8 ".bf.pid") (utf8 "a") (utf8 "a/bf.pid")
    (utf8 "/w/a/bf.pid") (utf8 "/w/a/bf.pid/bf.pid") 2 rfl rfl rfl (by decide +kernel)
  have before : read neighbours (utf8 "a/bf.pid") =
      .error (Files.Fault.toError ⟨"open", utf8 "/w/a/bf.pid/bf.pid", .notFound⟩) := rfl
  have after : read (noted 2) (utf8 "a/bf.pid") =
      .error (Files.Fault.toError ⟨"open", utf8 "/w/a/bf.pid/bf.pid", .notDirectory⟩) := rfl
  rw [before, after] at same
  exact absurd (Except.error.inj same) (by decide +kernel)

end Stopping

end Brainfuck.PidFile
