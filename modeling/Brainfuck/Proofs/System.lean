import Brainfuck.Service.Request

/-!
The task service among its processes. Requests are answered one at a time, and between them
processes end, waiters see that their process has ended, and waiters write down what they have
seen, in any order. Each step of a run is an event, and the events of a run are its history. What a
request can do to the service is said once; whatever holds in every run is derived from that.
-/

namespace Brainfuck

namespace Host

/-- Every process is still known, and one that had ended has not ended otherwise. -/
def Survives (before after : Host) : Prop :=
  ∀ pid process, before.processes.get? pid = some process →
    ∃ later, after.processes.get? pid = some later ∧
      ∀ ending, process.phase = .ended ending → later.phase = .ended ending

variable {host after : Host}

theorem survives_of_processes (same : after.processes = host.processes) : host.Survives after := by
  intro pid process known
  rw [same]
  exact ⟨process, known, fun _ ended => ended⟩

theorem survives_modify {pid : Pid} {change : Process → Process}
    (keeps : ∀ process ending, process.phase = .ended ending →
      (change process).phase = .ended ending)
    (changed : after.processes = host.processes.modify pid change) : host.Survives after := by
  intro other process known
  rw [changed]
  by_cases same : other = pid
  · subst same
    rw [Table.get?_modify_self, known]
    exact ⟨change process, rfl, keeps process⟩
  · rw [Table.get?_modify_ne _ _ same]
    exact ⟨process, known, fun _ ended => ended⟩

theorem signal_survives (host : Host) (pid : Pid) (signal : Nat) :
    host.Survives (host.signal pid signal).2 := by
  unfold Host.signal
  split
  · exact survives_of_processes rfl
  · split
    · exact survives_of_processes rfl
    · refine survives_modify (fun process ending ended => ?_) rfl
      rw [Process.receive, ended]
      exact ended

theorem endInput_survives (host : Host) (pid : Pid) : host.Survives (host.endInput pid) := by
  refine survives_modify (fun process ending ended => ?_) rfl
  unfold Process.endInput
  cases process.input <;> exact ended

theorem finish_survives (host : Host) (pid : Pid) (ending : Ending) :
    host.Survives (host.finish pid ending) := by
  refine survives_modify (fun process ending ended => ?_) rfl
  rw [ended]
  exact ended

/-- A new process is stopped and has the next pid. -/
theorem spawn_eq_ok {config : Bundle.Config} {input : Input} {pid : Pid}
    (spawned : host.spawn config input = .ok (pid, after)) :
    pid = host.nextPid ∧ ∃ process : Process, process.phase = .stopped ∧
      after.processes = host.processes.put host.nextPid process := by
  unfold spawn at spawned
  cases started : host.startDirectory config with
  | error error =>
      rw [started] at spawned
      cases spawned
  | ok directory =>
      rw [started] at spawned
      cases spawned
      exact ⟨rfl, _, rfl, rfl⟩

/-- No process is lost to a new one that is given a pid that nobody has. -/
theorem survives_put {process : Process} (free : host.alive host.nextPid = false)
    (born : after.processes = host.processes.put host.nextPid process) : host.Survives after := by
  intro other old known
  have apart : other ≠ host.nextPid := by
    intro same
    subst same
    rw [alive, Table.contains, known] at free
    cases free
  rw [born]
  exact ⟨old, (Table.get?_put_ne _ _ apart).trans known, fun _ ended => ended⟩

end Host

namespace Service

section Effects

/-- The requests that change something besides processes and files when they succeed. -/
def Request.changes : Request → Bool
  | .create _ | .start _ | .delete _ | .shutdown => true
  | _ => false

/-- The task that a request is about, if it has to be in the table. -/
def Request.target? : Request → Option Bytes
  | .start id | .delete id | .state id | .kill id _ | .pids id | .closeIO id _ | .connect id
  | .wait id => some id
  | _ => none

/-- All that a request can do. -/
inductive Effect (service : Service) : Request → Outcome → Prop where
  | quiet {request : Request} {reply : Except Error Reply} {host : Host}
      (refused : request.changes → ∃ error, reply = .error error)
      (kept : service.host.Survives host) :
      Effect service request (reply, { service with host })
  | created {creation : Creation} {host : Host} {process : Host.Process}
      (vacant : service.tasks.get? creation.id = none) (kept : service.host.Survives host)
      (born : host.processes.get? service.host.nextPid = some process) :
      Effect service (.create creation)
        (.ok (.pid (low service.host.nextPid)),
          enter { service with host } creation service.host.nextPid)
  | started {id : Bytes} {task : Task} {host : Host}
      (found : service.tasks.get? id = some task) (idle : task.started = false)
      (kept : service.host.Survives host) :
      Effect service (.start id)
        (.ok (.pid (low task.pid)),
          { service with host, tasks := service.tasks.put id { task with started := true } })
  | deleted {id : Bytes} {task : Task} {host : Host}
      (found : service.tasks.get? id = some task) (done : service.isDone task = true)
      (kept : service.host.Survives host) :
      Effect service (.delete id)
        (.ok (.deleted (low task.pid) task.exit),
          { service with tasks := service.tasks.erase id, host })
  | shutdown :
      Effect service .shutdown (.ok .done, { service with shutdowns := service.shutdowns + 1 })

variable {service : Service}

theorem Effect.still {request : Request} {reply : Except Error Reply}
    (refused : request.changes → ∃ error, reply = .error error) :
    Effect service request (reply, service) :=
  .quiet refused (Host.survives_of_processes rfl)

theorem get_eq_ok {id : Bytes} {task : Task} (found : service.get id = .ok task) :
    service.tasks.get? id = some task := by
  unfold get at found
  split at found
  · cases found
  · cases found
    assumption

/-- Launching comes to nothing, or to a process and its task. The pid file of the task changes no
more than the files of the host. -/
theorem launch_cases (service : Service) (interruption : Option Interruption)
    (creation : Creation) (config : Bundle.Config) :
    (∃ error, service.launch interruption creation config = (.error error, service)) ∨
    ∃ pid host files,
      service.host.spawn config (inputOf service.host creation.stdio.stdin) = .ok (pid, host) ∧
      service.launch interruption creation config =
        (.ok pid, enter { service with host := { host with files } } creation pid) := by
  unfold launch
  split
  · exact .inl ⟨_, rfl⟩
  · split
    · exact .inl ⟨_, rfl⟩
    · split
      · exact .inl ⟨_, rfl⟩
      · rename_i pid host spawned
        let noted := (enter { service with host } creation pid).notePid creation.id pid
        exact .inr ⟨pid, host, noted.host.files, spawned, rfl⟩

/-- What creating a task can come to: files may have changed, or there is a stopped process and a
task for it. -/
inductive Creating (service : Service) (creation : Creation) :
    Except Error Pid × Service → Prop where
  | failed (error : Error) {host : Host} (same : host.processes = service.host.processes) :
      Creating service creation (.error error, { service with host })
  | made {host : Host} {process : Host.Process}
      (vacant : service.tasks.get? creation.id = none) (stopped : process.phase = .stopped)
      (born : host.processes = service.host.processes.put service.host.nextPid process) :
      Creating service creation
        (.ok service.host.nextPid, enter { service with host } creation service.host.nextPid)

theorem launch_creating (service : Service) (interruption : Option Interruption)
    (creation : Creation) (config : Bundle.Config)
    (vacant : service.tasks.get? creation.id = none) :
    Creating service creation (service.launch interruption creation config) := by
  rcases launch_cases service interruption creation config with
    ⟨error, failed⟩ | ⟨pid, host, files, spawned, launched⟩
  · rw [failed]
    exact .failed error rfl
  · obtain ⟨rfl, process, stopped, born⟩ := Host.spawn_eq_ok spawned
    have later : { host with files }.processes =
        service.host.processes.put service.host.nextPid process := born
    rw [launched]
    exact .made vacant stopped later

theorem create_creating (service : Service) (interruption : Option Interruption)
    (creation : Creation) : Creating service creation (service.create interruption creation) := by
  unfold create
  split
  · exact .failed _ rfl
  · rename_i absent
    have vacant : service.tasks.get? creation.id = none := by
      rw [Table.contains, Bool.not_eq_true, Option.isSome_eq_false_iff, Option.isNone_iff_eq_none]
        at absent
      exact absent
    split
    · exact .failed _ rfl
    · split
      · exact .failed _ rfl
      · rename_i config _ _ files _
        generalize ended : launch { service with host := { service.host with files } }
          interruption creation config = outcome
        have creating := launch_creating { service with host := { service.host with files } }
          interruption creation config vacant
        rw [ended] at creating
        cases creating with
        | failed error same => exact .failed error same
        | made vacant stopped born => exact .made vacant stopped born

theorem handle_creating (service : Service) (interruption : Option Interruption)
    (creation : Creation) :
    (∃ error host, host.processes = service.host.processes ∧
      service.handle interruption (.create creation) = (.error error, { service with host })) ∨
    service.tasks.get? creation.id = none ∧ ∃ host process, process.phase = .stopped ∧
      host.processes = service.host.processes.put service.host.nextPid process ∧
      service.handle interruption (.create creation) =
        (.ok (.pid (low service.host.nextPid)),
          enter { service with host } creation service.host.nextPid) := by
  have creating := create_creating service interruption creation
  rw [handle]
  generalize service.create interruption creation = outcome at creating
  cases creating with
  | failed error same => exact .inl ⟨error, _, same, rfl⟩
  | made vacant stopped born => exact .inr ⟨vacant, _, _, stopped, born, rfl⟩

theorem start_effect (service : Service) (id : Bytes) :
    Effect service (.start id) (service.start id) := by
  unfold start
  cases found : service.get id with
  | error error => exact .still fun _ => ⟨error, rfl⟩
  | ok task =>
      dsimp only
      split
      · exact .still fun _ => ⟨_, rfl⟩
      · rename_i idle
        have kept := service.host.signal_survives task.pid Host.continueSignal
        split
        · rename_i sent
          rw [sent] at kept
          exact .quiet (fun _ => ⟨_, rfl⟩) kept
        · rename_i sent
          rw [sent] at kept
          exact .started (get_eq_ok found) (by simpa using idle) kept

theorem delete_effect (service : Service) (id : Bytes) :
    Effect service (.delete id) (service.delete id) := by
  unfold delete
  cases found : service.get id with
  | error error => exact .still fun _ => ⟨error, rfl⟩
  | ok task =>
      dsimp only
      split
      · rename_i done
        exact .deleted (get_eq_ok found) done (Host.survives_of_processes rfl)
      · exact .still fun _ => ⟨_, rfl⟩

theorem kill_effect (service : Service) (id : Bytes) (signal : Nat) :
    Effect service (.kill id signal) (service.kill id signal) := by
  unfold kill
  split
  · exact .still nofun
  · split
    · exact .still nofun
    · rename_i task _ _
      split
      · have kept := service.host.signal_survives task.pid (signalFor task signal)
        split
        · rename_i sent
          rw [sent] at kept
          exact .quiet nofun kept
        · rename_i sent
          rw [sent] at kept
          exact .quiet nofun kept
      · exact .still nofun

theorem closeIO_effect (service : Service) (id : Bytes) (stdin : Bool) :
    Effect service (.closeIO id stdin) (service.closeIO id stdin) := by
  unfold closeIO
  split
  · exact .still nofun
  · split
    · exact .still nofun
    · split
      · exact .still nofun
      · exact .quiet nofun (service.host.endInput_survives _)
      · exact .still nofun

theorem wait_effect (service : Service) (interruption : Option Interruption) (id : Bytes) :
    Effect service (.wait id) (service.wait interruption id) := by
  unfold wait
  split
  · exact .still nofun
  · split
    · exact .still nofun
    · split <;> exact .still nofun

/-- A process is only given a pid that nobody has. -/
def PidFree (service : Service) (request : Request) : Prop :=
  ∀ creation, request = .create creation → service.host.alive service.host.nextPid = false

theorem handle_effect (interruption : Option Interruption) (request : Request)
    (free : PidFree service request) :
    Effect service request (service.handle interruption request) := by
  cases request with
  | create creation =>
      rcases handle_creating service interruption creation with
        ⟨error, host, same, failed⟩ | ⟨vacant, host, process, stopped, born, made⟩
      · rw [failed]
        exact .quiet (fun _ => ⟨error, rfl⟩) (Host.survives_of_processes same)
      · rw [made]
        have known := congrArg (Table.get? · service.host.nextPid) born
        exact .created vacant (Host.survives_put (free creation rfl) born)
          (known.trans (Table.get?_put_self _ _ _))
  | start id => exact start_effect service id
  | delete id => exact delete_effect service id
  | kill id signal => exact kill_effect service id signal
  | closeIO id stdin => exact closeIO_effect service id stdin
  | wait id => exact wait_effect service interruption id
  | shutdown => exact .shutdown
  | state | pids | connect | exec | resizePty | pause | resume | checkpoint | update | stats =>
      exact .still nofun

end Effects

section Runs

/-- What a waiter has seen: how its process ended. -/
structure Sighting where
  waiter : Waiter
  ending : Host.Ending
  deriving DecidableEq, Repr

/-- An exit as it was written down. -/
structure Entry where
  waiter : Waiter
  status : Int
  time : Timestamp
  deriving DecidableEq, Repr

structure System where
  service : Service
  /-- What waiters have seen and not yet written down. -/
  seen : List Sighting := []
  /-- What was written down, last first. -/
  recorded : List Entry := []

namespace System

def initial (host : Host) : System :=
  { service := { host } }

def withHost (system : System) (host : Host) : System :=
  { system with service := { system.service with host } }

/-- Whoever still waits and has not seen its process end. -/
structure Unseen (system : System) (waiter : Waiter) : Prop where
  waits : waiter ∈ system.service.waiters
  fresh : ∀ sighting ∈ system.seen, sighting.waiter ≠ waiter

end System

inductive Event where
  | answered (request : Request) (reply : Except Error Reply)
  | ended (pid : Pid) (ending : Host.Ending)
  | noticed (sighting : Sighting)
  | recorded (entry : Entry)
  | drifted

/-- What a sighting comes to when it is written down. -/
def Sighting.entry (sighting : Sighting) (time : Timestamp) : Entry :=
  ⟨sighting.waiter, exitStatus sighting.ending, time⟩

/-- One step of a run together with the event that it is. Files, clock, fifos, the next pid and
what the system refuses may change at any time. -/
inductive Happens : System → Event → System → Prop where
  | request (system : System) (interruption : Option Interruption) (request : Request)
      (free : PidFree system.service request) :
      Happens system (.answered request (system.service.handle interruption request).1)
        { system with service := (system.service.handle interruption request).2 }
  | exit (system : System) (pid : Pid) (ending : Host.Ending) :
      Happens system (.ended pid ending) (system.withHost (system.service.host.finish pid ending))
  | notice (system : System) {waiter : Waiter} {process : Host.Process} {ending : Host.Ending}
      (unseen : system.Unseen waiter)
      (known : system.service.host.processes.get? waiter.pid = some process)
      (ended : process.phase = .ended ending) :
      Happens system (.noticed ⟨waiter, ending⟩)
        { system.withHost (system.service.host.reap waiter.pid) with
          seen := ⟨waiter, ending⟩ :: system.seen }
  | record (system : System) {sighting : Sighting} (member : sighting ∈ system.seen) :
      Happens system (.recorded (sighting.entry system.service.host.now))
        { service := system.service.record sighting.waiter sighting.ending
          seen := system.seen.erase sighting
          recorded := sighting.entry system.service.host.now :: system.recorded }
  | drift (system : System) (files : Files) (peers : Table Bytes Host.Peer) (now : Timestamp)
      (nextPid : Pid) (refusals : Host.Refusals) :
      Happens system .drifted
        (system.withHost { system.service.host with files, peers, now, nextPid, refusals })

inductive History : System → List Event → System → Prop where
  | nil (system : System) : History system [] system
  | cons {before middle after : System} {event : Event} {events : List Event}
      (first : Happens before event middle) (rest : History middle events after) :
      History before (event :: events) after

def Step (before after : System) : Prop :=
  ∃ event, Happens before event after

def Run (before after : System) : Prop :=
  ∃ events, History before events after

def Reachable (system : System) : Prop :=
  ∃ host, Run (.initial host) system

variable {before middle after : System} {event : Event} {events : List Event}

theorem Happens.step (happens : Happens before event after) : Step before after :=
  ⟨event, happens⟩

theorem History.run (history : History before events after) : Run before after :=
  ⟨events, history⟩

theorem History.append {later : List Event} (first : History before events middle)
    (second : History middle later after) : History before (events ++ later) after := by
  induction first with
  | nil => exact second
  | cons happens _ ih => exact .cons happens (ih second)

theorem Run.refl (system : System) : Run system system :=
  ⟨[], .nil system⟩

theorem Run.next (first : Step before middle) (rest : Run middle after) : Run before after := by
  obtain ⟨event, happens⟩ := first
  obtain ⟨events, history⟩ := rest
  exact ⟨event :: events, .cons happens history⟩

theorem Run.trans (first : Run before middle) (second : Run middle after) : Run before after := by
  obtain ⟨events, history⟩ := first
  obtain ⟨later, rest⟩ := second
  exact ⟨events ++ later, history.append rest⟩

theorem Run.invariant {Holds : System → Prop}
    (kept : ∀ before after, Holds before → Step before after → Holds after)
    (run : Run before after) (holds : Holds before) : Holds after := by
  obtain ⟨events, history⟩ := run
  induction history with
  | nil => exact holds
  | cons first _ ih => exact ih (kept _ _ holds first.step)

end Runs

section Drivers

/-! Taking note of an exit in one go is one of the ways in which a run can continue. -/

theorem collect_runs (system : System) {ticket : Ticket} {after : Service}
    (nobody : system.seen = []) (collected : system.service.collect ticket = some after) :
    ∃ later, Run system later ∧ later.service = after ∧ later.seen = [] := by
  unfold collect at collected
  obtain ⟨waiter, found, collected⟩ := Option.bind_eq_some_iff.mp collected
  obtain ⟨process, known, collected⟩ := Option.bind_eq_some_iff.mp collected
  have waits := List.mem_of_find?_eq_some found
  cases phase : process.phase with
  | stopped =>
      rw [phase] at collected
      cases collected
  | running files =>
      rw [phase] at collected
      cases collected
  | ended ending =>
      rw [phase] at collected
      cases collected
      have unseen : system.Unseen waiter := ⟨waits, by rw [nobody]; nofun⟩
      have notice := Happens.notice system unseen known phase
      refine ⟨_, .next notice.step (.next (Happens.record _ List.mem_cons_self).step (.refl _)),
        rfl, ?_⟩
      simp [nobody]

theorem settle_runs (system : System) {fuel : Nat} {ticket : Ticket} {after : Service}
    (nobody : system.seen = []) (settled : system.service.settle fuel ticket = some after) :
    ∃ later, Run system later ∧ later.service = after ∧ later.seen = [] := by
  unfold settle at settled
  obtain ⟨waiter, _, settled⟩ := Option.bind_eq_some_iff.mp settled
  obtain ⟨process, _, settled⟩ := Option.bind_eq_some_iff.mp settled
  obtain ⟨ending, _, settled⟩ := Option.bind_eq_some_iff.mp settled
  obtain ⟨later, run, same, empty⟩ :=
    collect_runs (system.withHost (system.service.host.finish waiter.pid ending)) nobody settled
  exact ⟨later, .next (Happens.exit system waiter.pid ending).step run, same, empty⟩

theorem serve_runs (system : System) {fuel : Nat} {interruption : Option Interruption}
    {request : Request} {reply : Except Error Reply} {after : Service}
    (nobody : system.seen = []) (free : PidFree system.service request)
    (served : system.service.serve fuel interruption request = some (reply, after)) :
    ∃ later, Run system later ∧ later.service = after ∧ later.seen = [] := by
  have first := (Happens.request system interruption request free).step
  unfold serve at served
  split at served
  · rename_i ticket service id handled
    obtain ⟨settled, ran, answered⟩ := Option.bind_eq_some_iff.mp served
    cases answered
    rw [handled] at first
    obtain ⟨later, run, same, empty⟩ := settle_runs { system with service } nobody ran
    exact ⟨later, .next first run, same, empty⟩
  · have answered := Option.some.inj served
    rw [answered] at first
    exact ⟨_, .next first (.refl _), rfl, nobody⟩

end Drivers

end Service

end Brainfuck
