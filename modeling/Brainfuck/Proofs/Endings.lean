import Brainfuck.Proofs.History

/-!
How the processes of tasks come to their ends. A process that somebody still waits for ends by
itself, by a signal from outside or by a request to kill it, and no other event touches its life;
the exit that is written down in the end is the end that it came to.
-/

namespace Brainfuck

namespace Host

def Process.IsLive (process : Process) : Prop :=
  ∀ ending, process.phase ≠ .ended ending

theorem Process.receive_fatal {process : Process} (live : process.IsLive) (files : Files) :
    (process.receive files killSignal).phase = .ended (.signaled killSignal) := by
  unfold Process.receive
  cases phase : process.phase with
  | ended ending => exact absurd phase (live ending)
  | stopped => rfl
  | running => rfl

theorem Process.receive_live {process : Process} (live : process.IsLive) (files : Files)
    {signal : Nat} (mild : signal ≠ killSignal) : (process.receive files signal).IsLive := by
  intro ending
  unfold Process.receive
  cases phase : process.phase with
  | ended other => exact absurd phase (live other)
  | running => simp [mild, phase]
  | stopped =>
      by_cases resumed : signal = continueSignal
      · simp only [if_neg mild, if_pos resumed]
        exact nofun
      · simp [mild, resumed, phase]

theorem Process.endInput_live {process : Process} (live : process.IsLive) :
    process.endInput.IsLive := by
  intro ending
  unfold Process.endInput
  cases process.input with
  | text content => exact live ending
  | idle => exact live ending

theorem signal_processes (host : Host) (pid : Pid) (signal : Nat) :
    (host.signal pid signal).2.processes = host.processes ∨
      (host.signal pid signal).2.processes =
        host.processes.modify pid (Process.receive host.files signal) := by
  unfold Host.signal
  split
  · exact .inl rfl
  · split
    · exact .inl rfl
    · exact .inr rfl

end Host

namespace Service

section Touching

/-- All that a request can do to processes. -/
inductive Touched (service : Service) : Request → Host → Prop where
  | untouched {request : Request} {host : Host} (same : host.processes = service.host.processes) :
      Touched service request host
  | spawned {creation : Creation} {host : Host} {process : Host.Process}
      (born : host.processes = service.host.processes.put service.host.nextPid process) :
      Touched service (.create creation) host
  | resumed {id : Bytes} {host : Host} {pid : Pid}
      (sent : host.processes = service.host.processes.modify pid
        (Host.Process.receive service.host.files Host.continueSignal)) :
      Touched service (.start id) host
  | signaled {id : Bytes} {signal : Nat} {task : Task} {host : Host}
      (found : service.tasks.get? id = some task)
      (sent : host.processes = service.host.processes.modify task.pid
        (Host.Process.receive service.host.files (signalFor task signal))) :
      Touched service (.kill id signal) host
  | closed {id : Bytes} {stdin : Bool} {host : Host} {pid : Pid}
      (ended : host.processes = service.host.processes.modify pid Host.Process.endInput) :
      Touched service (.closeIO id stdin) host

variable (service : Service) (interruption : Option Interruption)

theorem start_touched (id : Bytes) : Touched service (.start id) (service.start id).2.host := by
  unfold start
  split
  · exact .untouched rfl
  · rename_i task _
    split
    · exact .untouched rfl
    · have result := service.host.signal_processes task.pid Host.continueSignal
      split
      · rename_i sent
        rw [sent] at result
        exact result.elim .untouched .resumed
      · rename_i sent
        rw [sent] at result
        exact result.elim .untouched .resumed

theorem kill_touched (id : Bytes) (signal : Nat) :
    Touched service (.kill id signal) (service.kill id signal).2.host := by
  unfold kill
  split
  · exact .untouched rfl
  · rename_i task found
    split
    · exact .untouched rfl
    · split
      · have result := service.host.signal_processes task.pid (signalFor task signal)
        split
        · rename_i sent
          rw [sent] at result
          exact result.elim .untouched (.signaled (get_eq_ok found))
        · rename_i sent
          rw [sent] at result
          exact result.elim .untouched (.signaled (get_eq_ok found))
      · exact .untouched rfl

theorem closeIO_touched (id : Bytes) (stdin : Bool) :
    Touched service (.closeIO id stdin) (service.closeIO id stdin).2.host := by
  unfold closeIO
  split
  · exact .untouched rfl
  · split
    · exact .untouched rfl
    · split
      · exact .untouched rfl
      · exact .closed rfl
      · exact .untouched rfl

theorem delete_touched (id : Bytes) : Touched service (.delete id) (service.delete id).2.host := by
  unfold delete
  split
  · exact .untouched rfl
  · split
    · exact .untouched rfl
    · exact .untouched rfl

theorem wait_host (id : Bytes) : (service.wait interruption id).2 = service := by
  unfold wait
  split
  · rfl
  · split
    · rfl
    · split <;> rfl

theorem handle_touched (request : Request) :
    Touched service request (service.handle interruption request).2.host := by
  cases request with
  | create creation =>
      rcases handle_creating service interruption creation with
        ⟨error, host, same, failed⟩ | ⟨vacant, host, process, stopped, born, made⟩
      · rw [failed]
        exact .untouched same
      · rw [made]
        exact .spawned born
  | start id => exact start_touched service id
  | delete id => exact delete_touched service id
  | kill id signal => exact kill_touched service id signal
  | closeIO id stdin => exact closeIO_touched service id stdin
  | wait id =>
      have same := wait_host service interruption id
      exact .untouched (congrArg (·.host.processes) same)
  | state | pids | connect | exec | resizePty | pause | resume | checkpoint | update | stats
  | shutdown =>
      exact .untouched rfl

end Touching

section Ending

/-- The process of a waiter is there and has not come to its end. -/
structure Lives (system : System) (waiter : Waiter) : Prop where
  unseen : system.Unseen waiter
  running : ∃ process, system.service.host.processes.get? waiter.pid = some process ∧
    process.IsLive

/-- An event in which the process with a pid comes to its end. -/
inductive Ends (system : System) (pid : Pid) : Event → Host.Ending → Prop where
  | ended (ending : Host.Ending) : Ends system pid (.ended pid ending) ending
  | killed {id : Bytes} {signal : Nat} {task : Task} {reply : Except Error Reply}
      (found : system.service.tasks.get? id = some task) (target : task.pid = pid)
      (fatal : signalFor task signal = Host.killSignal) :
      Ends system pid (.answered (.kill id signal) reply) (.signaled Host.killSignal)

variable {before after : System} {event : Event} {events : List Event} {waiter : Waiter}

theorem modify_live {processes later : Table Pid Host.Process} {pid other : Pid}
    {process : Host.Process} {change : Host.Process → Host.Process}
    (changed : later = processes.modify other change)
    (known : processes.get? pid = some process) (live : process.IsLive)
    (keeps : other = pid → (change process).IsLive) :
    ∃ process, later.get? pid = some process ∧ process.IsLive := by
  rw [changed]
  by_cases same : pid = other
  · subst same
    rw [Table.get?_modify_self, known]
    exact ⟨change process, rfl, keeps rfl⟩
  · rw [Table.get?_modify_ne _ _ same]
    exact ⟨process, known, live⟩

theorem Effect.keeps_waiter {service : Service} {request : Request} {outcome : Outcome}
    (effect : Effect service request outcome) (waits : waiter ∈ service.waiters) :
    waiter ∈ outcome.2.waiters := by
  cases effect with
  | created => exact List.mem_cons_of_mem _ waits
  | quiet | started | deleted | shutdown => exact waits

theorem request_lives {request : Request} (lives : Lives before waiter)
    (interruption : Option Interruption) (free : PidFree before.service request)
    (answered : Except Error Reply) :
    Lives { before with service := (before.service.handle interruption request).2 } waiter ∨
      ∃ ending, Ends before waiter.pid (.answered request answered) ending ∧
        Exited { before with service := (before.service.handle interruption request).2 } waiter
          ending := by
  obtain ⟨unseen, process, known, live⟩ := lives
  have waits := (handle_effect interruption request free).keeps_waiter unseen.waits
  have touched := handle_touched before.service interruption request
  generalize before.service.handle interruption request = outcome at waits touched
  have still : System.Unseen { before with service := outcome.2 } waiter := ⟨waits, unseen.fresh⟩
  cases touched with
  | untouched same =>
      exact .inl ⟨still, process, (congrArg (Table.get? · waiter.pid) same).trans known, live⟩
  | spawned born =>
      -- The pid of the new process was free, and this one has its own.
      have apart : waiter.pid ≠ before.service.host.nextPid := by
        intro same
        have unused := free _ rfl
        rw [← same, Host.alive, Table.contains, known] at unused
        cases unused
      refine .inl ⟨still, process, ?_, live⟩
      rw [born]
      exact (Table.get?_put_ne _ _ apart).trans known
  | resumed sent =>
      refine .inl ⟨still, modify_live sent known live fun _ => ?_⟩
      exact Host.Process.receive_live live _ (by decide)
  | closed ended =>
      refine .inl ⟨still, modify_live ended known live fun _ => ?_⟩
      exact Host.Process.endInput_live live
  | @signaled id signal task _ found sent =>
      -- Only the signal that kills ends a process, and only the one that it was sent to.
      by_cases hit : task.pid = waiter.pid ∧ signalFor task signal = Host.killSignal
      · obtain ⟨target, fatal⟩ := hit
        refine .inr ⟨.signaled Host.killSignal, .killed found target fatal, ?_⟩
        refine .unnoticed still ?_ (Host.Process.receive_fatal live before.service.host.files)
        rw [sent, target, fatal, Table.get?_modify_self, known]
        rfl
      · refine .inl ⟨still, modify_live sent known live fun target => ?_⟩
        exact Host.Process.receive_live live _ fun fatal => hit ⟨target, fatal⟩

theorem finish_ended {host : Host} {pid : Pid} {process : Host.Process} {ending : Host.Ending}
    (known : host.processes.get? pid = some process) (live : process.IsLive) :
    (host.finish pid ending).processes.get? pid = some { process with phase := .ended ending } := by
  unfold Host.finish
  rw [Table.get?_modify_self, known]
  cases phase : process.phase with
  | ended other => exact absurd phase (live other)
  | stopped => simp [phase]
  | running => simp [phase]

theorem Happens.lives (happens : Happens before event after) (sound : Sound before)
    (lives : Lives before waiter) :
    Lives after waiter ∨
      ∃ ending, Ends before waiter.pid event ending ∧ Exited after waiter ending := by
  obtain ⟨unseen, process, known, live⟩ := lives
  cases happens with
  | request interruption request free =>
      exact request_lives ⟨unseen, process, known, live⟩ interruption free _
  | exit pid ending =>
      have still : (before.withHost (before.service.host.finish pid ending)).Unseen waiter :=
        ⟨unseen.waits, unseen.fresh⟩
      by_cases same : pid = waiter.pid
      · subst same
        exact .inr ⟨ending, .ended ending, .unnoticed still (finish_ended known live) rfl⟩
      · exact .inl ⟨still, modify_live rfl known live fun here => absurd here same⟩
  | @notice other ended ending unseenOther knownOther phase =>
      -- A process that has been seen to end is not one that lives.
      have apart : waiter.pid ≠ other.pid := by
        intro same
        rw [← same, known, Option.some.injEq] at knownOther
        subst knownOther
        exact live ending phase
      refine .inl ⟨⟨unseen.waits, ?_⟩, process, (Table.get?_erase_ne _ apart).trans known, live⟩
      intro sighting member
      rcases List.mem_cons.mp member with rfl | member
      · exact fun same => apart (congrArg Waiter.pid same.symm)
      · exact unseen.fresh sighting member
  | @record sighting member =>
      obtain ⟨_, _, _, _, result⟩ := sound.record_eq member
      have other : waiter ≠ sighting.waiter := (unseen.fresh sighting member).symm
      rw [result]
      refine .inl ⟨⟨(List.mem_erase_of_ne other).mpr unseen.waits, ?_⟩, process, known, live⟩
      exact fun later left => unseen.fresh later (List.mem_of_mem_erase left)
  | drift files peers now nextPid refusals =>
      exact .inl ⟨⟨unseen.waits, unseen.fresh⟩, process, known, live⟩

/-- If a process does not live on to the end of a history, its end is one of the events, and the
news of just this end has come as far as it could. -/
theorem History.lives (history : History before events after) (sound : Sound before)
    (lives : Lives before waiter) :
    Lives after waiter ∨ ∃ earlier event later ending,
      Occurs before events after earlier event later ∧ Ends earlier waiter.pid event ending ∧
      Exited after waiter ending := by
  induction history with
  | nil => exact .inl lives
  | cons first rest ih =>
      have soundThen := step_sound sound first.step
      rcases first.lives sound lives with lives | ⟨ending, ends, exited⟩
      · rcases ih soundThen lives with lives | ⟨earlier, event, later, ending, occurs, ends, exited⟩
        · exact .inl lives
        · exact .inr ⟨earlier, event, later, ending, occurs.tail first, ends, exited⟩
      · exact .inr ⟨_, _, _, ending, .head first rest, ends, run_exited soundThen rest.run exited⟩

/-- Of a task that is done the news of its exit has come to the books. -/
theorem Exited.exit_eq {system : System} {id : Bytes} {task : Task} {ending : Host.Ending}
    (exited : Exited system (task.waiter id) ending) (sound : Sound system)
    (found : system.service.tasks.get? id = some task)
    (done : task.ticket ∈ system.service.finished) :
    task.exitStatus = exitStatus ending ∧ ∃ time, task.exitTime = some time ∧
      ⟨task.waiter id, exitStatus ending, time⟩ ∈ system.recorded := by
  have gone : task.waiter id ∉ system.service.waiters :=
    fun waits => (sound.booked.owned _ waits).1 done
  cases exited with
  | unnoticed unseen _ _ => exact absurd unseen.waits gone
  | noticed seen => exact absurd (sound.watched.waiting _ seen) gone
  | @written clock entry =>
      obtain ⟨_, time, exitTime, only⟩ := sound.task_done found done
      -- There is one entry for a ticket.
      have member : ⟨task.waiter id, exitStatus ending, clock⟩ ∈
          system.entriesOf task.ticket :=
        List.mem_filter.mpr ⟨entry, decide_eq_true rfl⟩
      rw [only, List.mem_singleton, Entry.mk.injEq] at member
      obtain ⟨_, same, rfl⟩ := member
      exact ⟨same.symm, clock, exitTime, entry⟩

theorem happens_answered {request : Request} {reply : Except Error Reply}
    (happens : Happens before (.answered request reply) after) :
    ∃ interruption, PidFree before.service request ∧
      before.service.handle interruption request = (reply, after.service) ∧
      after.seen = before.seen ∧ after.recorded = before.recorded := by
  generalize named : Event.answered request reply = event at happens
  cases happens with
  | request interruption asked free =>
      cases named
      exact ⟨interruption, free, rfl, rfl, rfl⟩
  | exit | notice | record | drift => cases named

end Ending

section Creation

variable {before after : System} {creation : Creation} {reply : Reply}

theorem happens_created
    (happens : Happens before (.answered (.create creation) (.ok reply)) after) :
    before.service.tasks.get? creation.id = none ∧
      reply = .pid (low before.service.host.nextPid) ∧ after.seen = before.seen ∧
      ∃ host process, process.phase = .stopped ∧
        host.processes = before.service.host.processes.put before.service.host.nextPid process ∧
        after.service =
          enter { before.service with host } creation before.service.host.nextPid := by
  obtain ⟨interruption, _, handled, seen, _⟩ := happens_answered happens
  rcases handle_creating before.service interruption creation with
    ⟨error, host, _, failed⟩ | ⟨vacant, host, process, stopped, born, made⟩
  · rw [failed] at handled
    cases handled
  · rw [made, Prod.mk.injEq, Except.ok.injEq] at handled
    exact ⟨vacant, handled.1.symm, seen, host, process, stopped, born, handled.2.symm⟩

theorem created_found
    (happens : Happens before (.answered (.create creation) (.ok reply)) after) :
    after.service.tasks.get? creation.id =
      some (creation.task before.service.host.nextPid before.service.nextTicket) := by
  obtain ⟨_, _, _, host, _, _, _, made⟩ := happens_created happens
  rw [made, enter_tasks]
  exact Table.get?_put_self _ _ _

theorem created_lives (sound : Sound before)
    (happens : Happens before (.answered (.create creation) (.ok reply)) after) :
    Lives after ⟨creation.id, before.service.host.nextPid, before.service.nextTicket⟩ := by
  obtain ⟨_, _, seen, host, process, stopped, born, made⟩ := happens_created happens
  refine ⟨⟨?_, ?_⟩, process, ?_, ?_⟩
  · rw [made]
    exact List.mem_cons_self
  · rw [seen]
    intro sighting member same
    have given := sound.booked.waiter_given (sound.watched.waiting sighting member)
    rw [same] at given
    exact Nat.lt_irrefl _ given
  · rw [made]
    exact (congrArg (Table.get? · before.service.host.nextPid) born).trans
      (Table.get?_put_self _ _ _)
  · intro ending ended
    rw [stopped] at ended
    cases ended

end Creation

end Service

end Brainfuck
