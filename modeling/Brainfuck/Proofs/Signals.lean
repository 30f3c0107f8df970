import Brainfuck.Proofs.Lifecycle

/-!
Who is sent a signal, and when. Killing spares a task that is done; starting asks only whether the
task was started before, so that one which came to its end without ever having been started is
still sent the signal to continue, under a pid that may be somebody else's by then. No other event
of a run sends a signal to a task that is done.
-/

namespace Brainfuck

namespace Host

theorem signal_signals (host : Host) (pid : Pid) (signal : Nat) :
    (host.signal pid signal).2.signals = (pid, signal) :: host.signals := by
  unfold Host.signal
  split
  · rfl
  · split
    · rfl
    · rfl

theorem spawn_signals {host after : Host} {config : Bundle.Config} {input : Input} {pid : Pid}
    (spawned : host.spawn config input = .ok (pid, after)) : after.signals = host.signals := by
  unfold spawn at spawned
  cases started : host.startDirectory config with
  | error error =>
      rw [started] at spawned
      cases spawned
  | ok directory =>
      rw [started] at spawned
      cases spawned
      rfl

theorem signal_continue_of_gone {host : Host} {pid : Pid} (gone : host.alive pid = false) :
    host.signal pid continueSignal =
      (.error .noProcess, { host with signals := (pid, continueSignal) :: host.signals }) := by
  simp [Host.signal, gone]

theorem signal_continue_of_alive {host : Host} {pid : Pid} (alive : host.alive pid = true) :
    host.signal pid continueSignal =
      (.ok (), { host with
        signals := (pid, continueSignal) :: host.signals
        processes := host.processes.modify pid (Process.receive host.files continueSignal) }) := by
  simp [Host.signal, alive, continueSignal, lastSignal]

end Host

namespace Service

section Requests

/-- All that a request can do about signals. -/
inductive Signaled (service : Service) : Request → Host → Prop where
  | silent {request : Request} {host : Host} (same : host.signals = service.host.signals) :
      Signaled service request host
  | resumed {id : Bytes} {task : Task} {host : Host}
      (found : service.tasks.get? id = some task) (idle : task.started = false)
      (sent : host.signals = (task.pid, Host.continueSignal) :: service.host.signals) :
      Signaled service (.start id) host
  | killed {id : Bytes} {signal : Nat} {task : Task} {host : Host}
      (found : service.tasks.get? id = some task) (pending : service.isDone task = false)
      (sent : host.signals = (task.pid, signalFor task signal) :: service.host.signals) :
      Signaled service (.kill id signal) host

variable (service : Service) (interruption : Option Interruption)

theorem launch_signals (creation : Creation) (config : Bundle.Config) :
    (service.launch interruption creation config).2.host.signals = service.host.signals := by
  rcases launch_cases service interruption creation config with
    ⟨error, failed⟩ | ⟨pid, host, files, spawned, launched⟩
  · rw [failed]
  · have same : host.signals = service.host.signals := Host.spawn_signals spawned
    rw [launched]
    exact same

theorem create_signals (creation : Creation) :
    (service.create interruption creation).2.host.signals = service.host.signals := by
  unfold create
  split
  · rfl
  · split
    · rfl
    · split
      · rfl
      · apply launch_signals

theorem start_signaled (id : Bytes) : Signaled service (.start id) (service.start id).2.host := by
  unfold start
  split
  · exact .silent rfl
  · rename_i task found
    split
    · exact .silent rfl
    · rename_i idle
      have sent := service.host.signal_signals task.pid Host.continueSignal
      rw [Bool.not_eq_true] at idle
      apply Signaled.resumed (get_eq_ok found) idle
      split
      · rename_i failed
        rw [failed] at sent
        exact sent
      · rename_i resumed
        rw [resumed] at sent
        exact sent

theorem kill_signaled (id : Bytes) (signal : Nat) :
    Signaled service (.kill id signal) (service.kill id signal).2.host := by
  unfold kill
  split
  · exact .silent rfl
  · rename_i task found
    split
    · exact .silent rfl
    · rename_i pending
      split
      · have sent := service.host.signal_signals task.pid (signalFor task signal)
        rw [Bool.not_eq_true] at pending
        apply Signaled.killed (get_eq_ok found) pending
        split
        · rename_i failed
          rw [failed] at sent
          exact sent
        · rename_i killed
          rw [killed] at sent
          exact sent
      · exact .silent rfl

theorem handle_signaled (request : Request) :
    Signaled service request (service.handle interruption request).2.host := by
  cases request with
  | create creation =>
      have same := create_signals service interruption creation
      rw [handle]
      generalize service.create interruption creation = outcome at same
      obtain ⟨error | pid, after⟩ := outcome
      · exact .silent same
      · exact .silent same
  | start id => exact start_signaled service id
  | kill id signal => exact kill_signaled service id signal
  | delete id =>
      apply Signaled.silent
      rw [handle, delete]
      split
      · rfl
      · split
        · rfl
        · rfl
  | closeIO id stdin =>
      apply Signaled.silent
      rw [handle, closeIO]
      split
      · rfl
      · split
        · rfl
        · split
          · rfl
          · rfl
          · rfl
  | wait id =>
      have same := wait_host service interruption id
      exact .silent (congrArg (·.host.signals) same)
  | state | pids | connect | exec | resizePty | pause | resume | checkpoint | update | stats
  | shutdown =>
      exact .silent rfl

/-- Writing an exit down leaves the host alone, whether there is a task for it or not. -/
theorem record_host (waiter : Waiter) (ending : Host.Ending) :
    (service.record waiter ending).host = service.host := by
  unfold record
  dsimp only
  split
  · rfl
  · unfold shutDownIfIdle
    split
    · rfl
    · rfl

end Requests

section Sending

/-- The task that an event may send a signal to. -/
def Event.aim? : Event → Option Bytes
  | .answered (.start id) _ | .answered (.kill id _) _ => some id
  | _ => none

/-- Just one signal is sent in an event, to the pid of the task that was asked for. -/
structure Sends (before after : System) (event : Event) (id : Bytes) (task : Task)
    (signal : Nat) : Prop where
  asked : event.aim? = some id
  found : before.service.tasks.get? id = some task
  sent : after.service.host.signals = (task.pid, signal) :: before.service.host.signals

/-- A task that came to its end without ever having been started. -/
structure Unstarted (system : System) (id : Bytes) (task : Task) : Prop where
  found : system.service.tasks.get? id = some task
  idle : task.started = false
  done : system.service.isDone task = true

/-- The signal of an event goes to a task that is not done, or the event is a late start. -/
def Excused (system : System) (event : Event) (id : Bytes) (task : Task) : Prop :=
  system.service.isDone task = false ∨
    ∃ reply, event = .answered (.start id) reply ∧ Unstarted system id task

variable {before after : System} {event : Event} {events : List Event}

theorem Happens.sends (happens : Happens before event after) :
    after.service.host.signals = before.service.host.signals ∨
      ∃ id task signal, Sends before after event id task signal ∧
        Excused before event id task := by
  cases happens with
  | request interruption request free =>
      have signaled := handle_signaled before.service interruption request
      generalize before.service.handle interruption request = outcome at signaled
      cases signaled with
      | silent same => exact .inl same
      | @resumed id task _ found idle sent =>
          refine .inr ⟨id, task, _, ⟨rfl, found, sent⟩, ?_⟩
          cases done : before.service.isDone task with
          | false => exact .inl done
          | true => exact .inr ⟨_, rfl, found, idle, done⟩
      | @killed id signal task _ found pending sent =>
          exact .inr ⟨id, task, _, ⟨rfl, found, sent⟩, .inl pending⟩
  | @record sighting member =>
      have same := record_host before.service sighting.waiter sighting.ending
      exact .inl (congrArg Host.signals same)
  | exit | notice | drift => exact .inl rfl

/-- Whatever was sent at the end of a history was sent before it or in one of its events. -/
theorem History.sends (history : History before events after) {pid : Pid} {signal : Nat}
    (sent : (pid, signal) ∈ after.service.host.signals) :
    (pid, signal) ∈ before.service.host.signals ∨
      ∃ earlier event later id task, Occurs before events after earlier event later ∧
        Sends earlier later event id task signal ∧ task.pid = pid ∧
        Excused earlier event id task := by
  induction history with
  | nil => exact .inl sent
  | cons first rest ih =>
      rcases ih sent with old | ⟨earlier, event, later, id, task, occurs, sends, target, excused⟩
      · rcases first.sends with same | ⟨id, task, other, sends, excused⟩
        · exact .inl (same ▸ old)
        · rw [sends.sent] at old
          rcases List.mem_cons.mp old with here | older
          · cases here
            exact .inr ⟨_, _, _, id, task, .head first rest, sends, rfl, excused⟩
          · exact .inl older
      · exact .inr ⟨earlier, event, later, id, task, occurs.tail first, sends, target, excused⟩

end Sending

section LateStart

/-- What a late start comes to. It fails if nobody has the pid; otherwise whoever has it is told
to continue, and the task counts as started. -/
inductive StartsLate (before after : System) (id : Bytes) (task : Task) :
    Except Error Reply → Prop where
  | refused (gone : before.service.host.alive task.pid = false)
      (tasks : after.service.tasks = before.service.tasks)
      (processes : after.service.host.processes = before.service.host.processes) :
      StartsLate before after id task
        (.error (.labelled (utf8 "resuming init process " ++ Integer.ofInt task.pid)
          (.plain (utf8 "no such process"))))
  | granted (alive : before.service.host.alive task.pid = true)
      (tasks : after.service.tasks = before.service.tasks.put id { task with started := true })
      (processes : after.service.host.processes = before.service.host.processes.modify task.pid
        (Host.Process.receive before.service.host.files Host.continueSignal)) :
      StartsLate before after id task (.ok (.pid (low task.pid)))

variable {before after : System} {id : Bytes} {task : Task} {reply : Except Error Reply}

theorem StartsLate.of_alive (late : StartsLate before after id task reply)
    (alive : before.service.host.alive task.pid = true) :
    after.service.tasks = before.service.tasks.put id { task with started := true } ∧
      after.service.host.processes = before.service.host.processes.modify task.pid
        (Host.Process.receive before.service.host.files Host.continueSignal) := by
  cases late with
  | refused gone => cases alive.symm.trans gone
  | granted _ tasks processes => exact ⟨tasks, processes⟩

theorem Happens.starts_late (happens : Happens before (.answered (.start id) reply) after)
    (unstarted : Unstarted before id task) :
    Sends before after (.answered (.start id) reply) id task Host.continueSignal ∧
      StartsLate before after id task reply := by
  obtain ⟨found, idle, _⟩ := unstarted
  obtain ⟨interruption, _, handled, _, _⟩ := happens_answered happens
  rw [handle, start, get_of_found found] at handled
  simp only [idle, Bool.false_eq_true, if_false] at handled
  cases alive : before.service.host.alive task.pid with
  | false =>
      rw [Host.signal_continue_of_gone alive, Prod.mk.injEq] at handled
      obtain ⟨rfl, same⟩ := handled
      refine ⟨⟨rfl, found, ?_⟩, .refused alive ?_ ?_⟩ <;> rw [← same]
  | true =>
      rw [Host.signal_continue_of_alive alive, Prod.mk.injEq] at handled
      obtain ⟨rfl, same⟩ := handled
      refine ⟨⟨rfl, found, ?_⟩, .granted alive ?_ ?_⟩ <;> rw [← same]

/-- Every signal in a run is sent to a task that is not done, but for those of late starts. A late
start does send one, for a process whose exit is in the books and that nobody waits for. -/
theorem only_late_starts_signal_done_tasks {host : Host} {events : List Event} {after : System}
    (history : History (.initial host) events after) :
    (∀ pid signal, (pid, signal) ∈ after.service.host.signals → (pid, signal) ∈ host.signals ∨
      ∃ earlier event later id task,
        Occurs (.initial host) events after earlier event later ∧
        Sends earlier later event id task signal ∧ task.pid = pid ∧
        Excused earlier event id task) ∧
    ∀ earlier event later, Occurs (.initial host) events after earlier event later →
      (later.service.host.signals = earlier.service.host.signals ∨
        ∃ id task signal, Sends earlier later event id task signal ∧
          Excused earlier event id task) ∧
      ∀ id task reply, event = .answered (.start id) reply → Unstarted earlier id task →
        Sends earlier later event id task Host.continueSignal ∧
        StartsLate earlier later id task reply ∧
        earlier.waitersOf task.ticket = [] ∧ ∃ time,
          earlier.entriesOf task.ticket = [⟨task.waiter id, task.exitStatus, time⟩] := by
  refine ⟨fun pid signal => history.sends, ?_⟩
  rintro earlier event later ⟨front, back, _, past, happens, _⟩
  refine ⟨happens.sends, ?_⟩
  rintro id task reply rfl unstarted
  have sound := past.sound (initial_sound host)
  obtain ⟨sends, late⟩ := happens.starts_late unstarted
  obtain ⟨nobody, time, _, entry⟩ := sound.task_done unstarted.found (isDone_iff.mp unstarted.done)
  exact ⟨sends, late, nobody, time, entry⟩

end LateStart

namespace Sample

/-! The task is killed before it was started, and is started when its exit is written down; or
first another task is created, whose process is given the pid that has become free. -/

def killedTask : Task where
  pid := 2
  bundle := creation.bundle
  ticket := 0
  exitStatus := 137
  exitTime := some 0

def stranger : Creation :=
  { creation with id := utf8 "b" }

def ending : List Event :=
  .answered (.create creation) (.ok (.pid 2)) :: killing

def recycled : System :=
  written.withHost { written.service.host with nextPid := killedTask.pid }

def shared : System :=
  asked recycled (.create stranger)

def sharing : List Event :=
  ending ++ [.drifted, answer recycled (.create stranger)]

theorem ending_history : History (.initial host) ending written :=
  .cons created_happens killing_history

theorem sharing_history : History (.initial host) sharing shared := by
  have drift : Happens written .drifted recycled :=
    .drift written written.service.host.files written.service.host.peers
      written.service.host.now killedTask.pid written.service.host.refusals
  have unused : recycled.service.host.alive recycled.service.host.nextPid = false := by
    decide +kernel
  exact ending_history.append (.cons drift (.cons (asked_happens fun _ _ => unused) (.nil _)))

theorem late_start_occurs {events : List Event} {system : System}
    (history : History (.initial host) events system) :
    History (.initial host) (events ++ [answer system (.start creation.id)])
      (asked system (.start creation.id)) ∧
    Occurs (.initial host) (events ++ [answer system (.start creation.id)])
      (asked system (.start creation.id)) system (answer system (.start creation.id))
      (asked system (.start creation.id)) := by
  have happens : Happens system (answer system (.start creation.id))
      (asked system (.start creation.id)) := asked_happens nofun
  exact ⟨history.append (.cons happens (.nil _)), events, [], rfl, history, happens, .nil _⟩

theorem written_unstarted : Unstarted written creation.id killedTask :=
  ⟨by decide +kernel, rfl, by decide +kernel⟩

theorem shared_unstarted : Unstarted shared creation.id killedTask :=
  ⟨by decide +kernel, rfl, by decide +kernel⟩

end Sample

theorem late_start_signals_recorded_exit :
    Unstarted Sample.written Sample.creation.id Sample.killedTask ∧
    (Sample.asked Sample.written (.start Sample.creation.id)).service.host.signals =
      (Sample.killedTask.pid, Host.continueSignal) :: Sample.written.service.host.signals ∧
    Sample.written.waitersOf Sample.killedTask.ticket = [] ∧ ∃ time,
      Sample.written.entriesOf Sample.killedTask.ticket =
        [⟨Sample.killedTask.waiter Sample.creation.id, 137, time⟩] := by
  obtain ⟨history, occurs⟩ := Sample.late_start_occurs Sample.ending_history
  obtain ⟨_, every⟩ := only_late_starts_signal_done_tasks history
  have late := (every _ _ _ occurs).2 _ _ _ rfl Sample.written_unstarted
  obtain ⟨sends, _, nobody, entry⟩ := late
  exact ⟨Sample.written_unstarted, sends.sent, nobody, entry⟩

/-- A task that is done is sent a signal and counts as started from then on, while it is the
process of another task that begins to run, which nobody has started. -/
theorem late_start_resumes_stranger :
    ∃ events event after, Occurs (.initial Sample.host) events after Sample.shared event after ∧
      Unstarted Sample.shared Sample.creation.id Sample.killedTask ∧
      Sends Sample.shared after event Sample.creation.id Sample.killedTask Host.continueSignal ∧
      after.service.tasks.get? Sample.creation.id =
        some { Sample.killedTask with started := true } ∧
      (after.service.tasks.get? Sample.stranger.id).map (fun task => (task.pid, task.started)) =
        some (Sample.killedTask.pid, false) ∧
      (Sample.shared.service.host.processes.get? Sample.killedTask.pid).map Host.Process.phase =
        some .stopped ∧
      (after.service.host.processes.get? Sample.killedTask.pid).map Host.Process.phase =
        some (.running Sample.shared.service.host.files) := by
  obtain ⟨_, occurs⟩ := Sample.late_start_occurs Sample.sharing_history
  have ⟨_, _, _, _, happens, _⟩ := occurs
  have unstarted := Sample.shared_unstarted
  have apart : Sample.stranger.id ≠ Sample.creation.id := by decide +kernel
  have other : (Sample.shared.service.tasks.get? Sample.stranger.id).map
      (fun task => (task.pid, task.started)) = some (Sample.killedTask.pid, false) := by
    decide +kernel
  have stopped : (Sample.shared.service.host.processes.get? Sample.killedTask.pid).map
      Host.Process.phase = some .stopped := by decide +kernel
  obtain ⟨process, known, phase⟩ := Option.map_eq_some_iff.mp stopped
  obtain ⟨sends, late⟩ := happens.starts_late unstarted
  have alive : Sample.shared.service.host.alive Sample.killedTask.pid = true := by
    rw [Host.alive, Table.contains, known]
    rfl
  obtain ⟨tasks, processes⟩ := late.of_alive alive
  refine ⟨_, _, _, occurs, unstarted, sends, ?_, ?_, stopped, ?_⟩
  · rw [tasks]
    exact Table.get?_put_self _ _ _
  · rw [tasks, Table.get?_put_ne _ _ apart]
    exact other
  · rw [processes, Table.get?_modify_self, known]
    simp [Host.Process.receive, phase, Host.continueSignal, Host.killSignal]

end Service

end Brainfuck
