import Brainfuck.Proofs.Exits
import Brainfuck.Proofs.FileTrees

/-!
What requests leave alone. One that fails changes no task at all, and one that succeeds only the
task under its id. For the request that goes through most before it succeeds, creating a task, the
ways in which it fails are listed.
-/

namespace Brainfuck

namespace Service

section Creations

variable {service : Service} {interruption : Option Interruption} {creation : Creation}

theorem forM_eq_ok_iff {Item : Type} {items : List Item} {check : Item → Except Error Unit} :
    items.forM check = .ok () ↔ ∀ item ∈ items, check item = .ok () := by
  induction items with
  | nil => simp [pure, Except.pure]
  | cons first rest ih =>
      rw [List.forM, List.forall_mem_cons, ← ih]
      cases check first with
      | error error => simp [bind, Except.bind]
      | ok value => simp [bind, Except.bind]

theorem connectStream_eq_ok_iff {host : Host} {stream : Host.Stream} {path : Bytes} :
    connectStream host interruption stream path = .ok () ↔
      openFifo host interruption path = .ok () ∧ host.refusals.pipe stream = none := by
  unfold connectStream
  cases openFifo host interruption path with
  | error error => simp [bind, Except.bind]
  | ok opened =>
      cases host.refusals.pipe stream with
      | none => simp [bind, Except.bind, pure, Except.pure]
      | some error => simp [bind, Except.bind, throw, throwThe, MonadExceptOf.throw]

/-- Each stream of a task has its fifo, with somebody at the other end, and its pipe. -/
def Connected (host : Host) (interruption : Option Interruption) (stdio : Stdio) : Prop :=
  ∀ stream path, (stream, path) ∈ stdio.fifos →
    openFifo host interruption path = .ok () ∧ host.refusals.pipe stream = none

theorem connectStreams_eq_ok_iff {host : Host} {stdio : Stdio} :
    connectStreams host interruption stdio = .ok () ↔ Connected host interruption stdio := by
  rw [connectStreams, forM_eq_ok_iff, Prod.forall]
  simp only [connectStream_eq_ok_iff, Connected]

theorem launch_ok_iff {config : Bundle.Config} :
    (∃ pid, (service.launch interruption creation config).1 = .ok pid) ↔
      service.host.refusals.executable = none ∧
      Connected service.host interruption creation.stdio ∧
      ∃ started, service.host.spawn config (inputOf service.host creation.stdio.stdin) =
        .ok started := by
  rw [← connectStreams_eq_ok_iff]
  unfold launch
  cases service.host.refusals.executable with
  | some error => simp
  | none =>
      cases connectStreams service.host interruption creation.stdio with
      | error error => simp
      | ok connected =>
          cases service.host.spawn config (inputOf service.host creation.stdio.stdin) with
          | error error => simp
          | ok started => simp

theorem create_ok_iff :
    (∃ pid, (service.create interruption creation).1 = .ok pid) ↔
      service.tasks.get? creation.id = none ∧
      ∃ config files,
        Bundle.Config.read service.host.files.read creation.bundle = .ok config ∧
        service.host.files.write (startScriptPath creation.bundle) startScript = .ok files ∧
        service.host.refusals.executable = none ∧
        Connected { service.host with files } interruption creation.stdio ∧
        ∃ started, { service.host with files }.spawn config
          (inputOf { service.host with files } creation.stdio.stdin) = .ok started := by
  unfold create Table.contains
  cases service.tasks.get? creation.id with
  | some task => simp
  | none =>
      cases Bundle.Config.read service.host.files.read creation.bundle with
      | error error => simp
      | ok config =>
          cases service.host.files.write (startScriptPath creation.bundle) startScript with
          | error fault => simp
          | ok files => simpa using launch_ok_iff

/-- What keeps a task from being created. -/
inductive Obstacle (service : Service) (interruption : Option Interruption) (creation : Creation) :
    Prop where
  | taken {task : Task} (found : service.tasks.get? creation.id = some task)
  | unread {error : Error}
      (failed : Bundle.Config.read service.host.files.read creation.bundle = .error error)
  | unwritten {fault : Files.Fault}
      (failed : service.host.files.write (startScriptPath creation.bundle) startScript =
        .error fault)
  | unnamed {error : Error} (refused : service.host.refusals.executable = some error)
  | noFifo {stream : Host.Stream} {path : Bytes} (listed : (stream, path) ∈ creation.stdio.fifos)
      (other : ∀ place, service.host.files.find path ≠ .ok (place, .fifo))
  | unopened {files : Files} {stream : Host.Stream} {path : Bytes} {error : Error}
      (written : service.host.files.write (startScriptPath creation.bundle) startScript = .ok files)
      (listed : (stream, path) ∈ creation.stdio.fifos)
      (failed : openFifo { service.host with files } interruption path = .error error)
  | unpiped {stream : Host.Stream} {path : Bytes} {error : Error}
      (listed : (stream, path) ∈ creation.stdio.fifos)
      (refused : service.host.refusals.pipe stream = some error)
  | unstarted {config : Bundle.Config} {files : Files} {error : Error}
      (read : Bundle.Config.read service.host.files.read creation.bundle = .ok config)
      (written : service.host.files.write (startScriptPath creation.bundle) startScript = .ok files)
      (failed : { service.host with files }.spawn config
        (inputOf { service.host with files } creation.stdio.stdin) = .error error)

theorem openFifo_ok {host : Host} {path : Bytes}
    (opened : openFifo host interruption path = .ok ()) :
    ∃ place, host.files.find path = .ok (place, .fifo) := by
  unfold openFifo at opened
  split at opened
  · rename_i place found
    exact ⟨place, found⟩
  · cases opened
  · cases opened
  · cases opened

theorem create_ok_iff_no_obstacle :
    (∃ pid, (service.create interruption creation).1 = .ok pid) ↔
      ¬ Obstacle service interruption creation := by
  rw [create_ok_iff]
  constructor
  · rintro ⟨vacant, config, files, read, written, named, connected, started, spawned⟩ obstacle
    cases obstacle with
    | taken found => cases vacant.symm.trans found
    | unread failed => cases read.symm.trans failed
    | unwritten failed => cases written.symm.trans failed
    | unnamed refused => cases named.symm.trans refused
    | noFifo listed other =>
        -- The start script is written in between, but it is no fifo.
        obtain ⟨place, found⟩ := openFifo_ok (connected _ _ listed).1
        exact other place (Files.find_of_write written found nofun)
    | unopened writtenAlso listed failed =>
        cases written.symm.trans writtenAlso
        cases (connected _ _ listed).1.symm.trans failed
    | unpiped listed refused => cases (connected _ _ listed).2.symm.trans refused
    | unstarted readAlso writtenAlso failed =>
        cases read.symm.trans readAlso
        cases written.symm.trans writtenAlso
        cases spawned.symm.trans failed
  · intro clear
    refine ⟨?_, ?_⟩
    · exact Option.eq_none_iff_forall_ne_some.mpr fun task found => clear (.taken found)
    · cases read : Bundle.Config.read service.host.files.read creation.bundle with
      | error error => exact absurd (.unread read) clear
      | ok config =>
          cases written :
            service.host.files.write (startScriptPath creation.bundle) startScript with
          | error fault => exact absurd (.unwritten written) clear
          | ok files =>
              refine ⟨config, files, rfl, rfl, ?_, ?_, ?_⟩
              · exact Option.eq_none_iff_forall_ne_some.mpr fun error refused =>
                  clear (.unnamed refused)
              · intro stream path listed
                constructor
                · cases opened : openFifo { service.host with files } interruption path with
                  | error error => exact absurd (.unopened written listed opened) clear
                  | ok value => rfl
                · exact Option.eq_none_iff_forall_ne_some.mpr fun error refused =>
                    clear (.unpiped listed refused)
              · cases spawned : { service.host with files }.spawn config
                    (inputOf { service.host with files } creation.stdio.stdin) with
                | error error => exact absurd (.unstarted read written spawned) clear
                | ok started => exact ⟨started, rfl⟩

end Creations

section Frames

def Request.id? : Request → Option Bytes
  | .create creation => some creation.id
  | request => request.target?

/-- A request changes nothing but the host, or it succeeds and changes nothing under other ids. -/
theorem handle_frame (service : Service) (interruption : Option Interruption) (request : Request) :
    (∃ reply host, service.handle interruption request = (reply, { service with host })) ∨
    ∃ reply after, service.handle interruption request = (.ok reply, after) ∧
      after.finished = service.finished ∧
      ∀ other, request.id? ≠ some other → after.tasks.get? other = service.tasks.get? other := by
  -- Which pid a process is given does not matter to the tasks, so creating is taken apart here.
  by_cases creates : ∃ creation, request = .create creation
  · obtain ⟨creation, rfl⟩ := creates
    rcases handle_creating service interruption creation with
      ⟨error, host, _, failed⟩ | ⟨_, host, _, _, _, made⟩
    · exact .inl ⟨_, host, failed⟩
    · refine .inr ⟨_, _, made, rfl, fun other elsewhere => ?_⟩
      exact Table.get?_put_ne _ _ fun same => elsewhere (congrArg some same.symm)
  · have free : PidFree service request := fun creation same => absurd ⟨creation, same⟩ creates
    have effect := handle_effect interruption request free
    generalize service.handle interruption request = outcome at effect
    cases effect with
    | quiet => exact .inl ⟨_, _, rfl⟩
    | created => exact absurd ⟨_, rfl⟩ creates
    | started =>
        refine .inr ⟨_, _, rfl, rfl, fun other elsewhere => ?_⟩
        exact Table.get?_put_ne _ _ fun same => elsewhere (congrArg some same.symm)
    | deleted =>
        refine .inr ⟨_, _, rfl, rfl, fun other elsewhere => ?_⟩
        exact Table.get?_erase_ne _ fun same => elsewhere (congrArg some same.symm)
    | shutdown => exact .inr ⟨_, _, rfl, rfl, fun _ _ => rfl⟩

theorem handle_create_ok_iff {service : Service} {interruption : Option Interruption}
    {creation : Creation} :
    (∃ reply, (service.handle interruption (.create creation)).1 = .ok reply) ↔
      ¬ Obstacle service interruption creation := by
  rw [← create_ok_iff_no_obstacle, handle]
  rcases service.create interruption creation with ⟨error | pid, after⟩
  · simp
  · simp

/-- What keeps a task from being created leaves neither a task nor a process behind. -/
theorem obstacle_iff_fails {service : Service} {interruption : Option Interruption}
    {creation : Creation} :
    Obstacle service interruption creation ↔
      ∃ error host, host.processes = service.host.processes ∧
        service.handle interruption (.create creation) = (.error error, { service with host }) := by
  constructor
  · intro obstacle
    rcases handle_creating service interruption creation with failed | ⟨_, _, _, _, _, made⟩
    · exact failed
    · exact absurd obstacle (handle_create_ok_iff.mp ⟨_, congrArg Prod.fst made⟩)
  · rintro ⟨error, host, _, failed⟩
    apply Classical.byContradiction
    intro clear
    obtain ⟨reply, answered⟩ := handle_create_ok_iff.mpr clear
    rw [failed] at answered
    cases answered

/-- The files of the bundle do not matter to a task that is there already. -/
theorem create_taken {service : Service} {creation : Creation} {task : Task}
    (found : service.tasks.get? creation.id = some task) (interruption : Option Interruption)
    (host : Host) :
    { service with host }.handle interruption (.create creation) =
      (.error (.category .alreadyExists), { service with host }) := by
  have taken : service.tasks.contains creation.id = true := by
    rw [Table.contains, found]
    rfl
  simp only [handle, create, taken, if_true]

/-- A request that fails leaves every task as it was, and one that succeeds every task under another
id. -/
theorem failed_requests_change_no_task (service : Service) (interruption : Option Interruption)
    (request : Request) :
    (∀ error, (service.handle interruption request).1 = .error error →
      ∃ host, (service.handle interruption request).2 = { service with host }) ∧
    (∀ other, request.id? ≠ some other →
      (service.handle interruption request).2.tasks.get? other = service.tasks.get? other) ∧
    (∀ task, (service.handle interruption request).2.isDone task = service.isDone task) ∧
    (∀ creation, request = .create creation →
      (Obstacle service interruption creation ↔
        ∃ error host, host.processes = service.host.processes ∧
          service.handle interruption request = (.error error, { service with host })) ∧
      (∀ task, service.tasks.get? creation.id = some task → ∀ host,
        { service with host }.handle interruption request =
          (.error (.category .alreadyExists), { service with host }))) := by
  refine ⟨?_, ?_, ?_, ?_⟩
  · intro error failed
    rcases handle_frame service interruption request with
      ⟨reply, host, quiet⟩ | ⟨reply, after, changed, _⟩
    · exact ⟨host, congrArg Prod.snd quiet⟩
    · rw [changed] at failed
      cases failed
  · intro other elsewhere
    rcases handle_frame service interruption request with
      ⟨reply, host, quiet⟩ | ⟨reply, after, changed, _, frame⟩
    · rw [quiet]
    · rw [changed]
      exact frame other elsewhere
  · intro task
    rcases handle_frame service interruption request with
      ⟨reply, host, quiet⟩ | ⟨reply, after, changed, finished, _⟩
    · rw [quiet]
      rfl
    · rw [changed]
      exact isDone_eq finished task
  · rintro creation rfl
    exact ⟨obstacle_iff_fails, fun task found host => create_taken found interruption host⟩

def Sample.piped : Creation where
  id := utf8 "c"
  bundle := utf8 "b"
  stdio := { stdout := utf8 "p.b" }

theorem piped_sample_changes_no_task :
    Obstacle Sample.written.service none Sample.piped ∧
      (Sample.written.service.handle none (.create Sample.piped)).2.tasks =
        Sample.written.service.tasks ∧
      ∀ host, { Sample.written.service with host }.handle none (.create Sample.creation) =
        (.error (.category .alreadyExists), { Sample.written.service with host }) := by
  have listed : (.stdout, utf8 "p.b") ∈ Sample.piped.stdio.fifos := by decide +kernel
  have found : (Sample.written.service.host.files.find (utf8 "p.b")).toOption =
      some ([utf8 "w", utf8 "p.b"], .file (utf8 "+")) := by decide +kernel
  have present : (Sample.written.service.tasks.get? Sample.creation.id).isSome = true := by
    decide +kernel
  generalize Sample.written.service = service at found present ⊢
  have obstacle : Obstacle service none Sample.piped := by
    refine .noFifo listed fun place same => ?_
    rw [same] at found
    cases found
  obtain ⟨task, there⟩ := Option.isSome_iff_exists.mp present
  obtain ⟨unchanged, _, _, creating⟩ :=
    failed_requests_change_no_task service none (.create Sample.piped)
  obtain ⟨error, _, _, failed⟩ := (creating _ rfl).1.mp obstacle
  obtain ⟨host, same⟩ := unchanged error (congrArg Prod.fst failed)
  obtain ⟨_, _, _, again⟩ :=
    failed_requests_change_no_task service none (.create Sample.creation)
  exact ⟨obstacle, by rw [same], (again _ rfl).2 task there⟩

end Frames

end Service

end Brainfuck
