import Brainfuck.Proofs.Endings

/-!
The life of a task, from its creation to its deletion. What is reported of a task moves from
created over running to stopped and stays as it is from then on, and the exit that is reported is
the end that the process of this very task came to.
-/

namespace Brainfuck.Service

theorem granted_cons (event : Event) (events : List Event) :
    granted (event :: events) = granted [event] ++ granted events := by
  unfold granted
  cases answered : event.granted? with
  | none => simp [answered]
  | some request => simp [answered]

theorem mem_granted_singleton {event : Event} {request : Request} :
    request ∈ granted [event] ↔ event.granted? = some request := by
  simp [granted]

section Continuing

def Status.rank : Status → Nat
  | .created => 0
  | .running => 1
  | .stopped => 2

/-- The same task at a later time. -/
structure Continues (before after : Service) (task later : Task) : Prop where
  same : later =
    { task with
      started := later.started, exitStatus := later.exitStatus, exitTime := later.exitTime }
  started : task.started = true → later.started = true
  done : before.isDone task = true → after.isDone later = true ∧
    later.exitStatus = task.exitStatus ∧ later.exitTime = task.exitTime

variable {before middle after : Service} {task middleTask later : Task}

theorem Continues.of_finished (grows : before.finished ⊆ after.finished) (task : Task) :
    Continues before after task task := by
  refine ⟨rfl, id, fun done => ⟨?_, rfl, rfl⟩⟩
  rw [isDone_iff] at done ⊢
  exact grows done

theorem Continues.trans (first : Continues before middle task middleTask)
    (second : Continues middle after middleTask later) : Continues before after task later := by
  refine ⟨?_, fun started => second.started (first.started started), ?_⟩
  · have same := second.same
    rw [first.same] at same
    exact same
  · intro done
    obtain ⟨doneThen, statusThen, timeThen⟩ := first.done done
    obtain ⟨doneLater, statusLater, timeLater⟩ := second.done doneThen
    exact ⟨doneLater, statusLater.trans statusThen, timeLater.trans timeThen⟩

theorem Continues.rank_le (continues : Continues before after task later) :
    (before.statusOf task).rank ≤ (after.statusOf later).rank := by
  unfold statusOf
  by_cases done : before.isDone task = true
  · simp [done, (continues.done done).1]
  · by_cases started : task.started = true
    · simp only [done, started, continues.started started]
      cases after.isDone later <;> simp [Status.rank]
    · simp [done, started, Status.rank]

end Continuing

section Persistence

variable {before after : System} {event : Event} {events : List Event} {id : Bytes} {task : Task}

theorem Turn.finished_subset (turn : Turn before after event) :
    before.service.finished ⊆ after.service.finished := by
  cases turn with
  | still _ _ _ finished _ | created _ _ finished _ | started _ _ _ finished _
  | deleted _ _ _ finished _ | shutdown _ finished _ =>
      rw [finished]
      exact List.Subset.refl _
  | recorded _ _ _ _ finished _ =>
      rw [finished]
      exact List.subset_cons_self _ _

/-- Only a start changes whether a task has started, only the end of its process what is known of
its exit, and only a deletion takes it away. -/
theorem Turn.continues (turn : Turn before after event)
    (found : before.service.tasks.get? id = some task)
    (kept : event.granted? ≠ some (.delete id)) :
    ∃ later, after.service.tasks.get? id = some later ∧
      Continues before.service after.service task later ∧
      (granted [event]).count (.start id) + task.started.toNat = later.started.toNat := by
  have unstarted (other : event.granted? ≠ some (.start id)) :
      (granted [event]).count (.start id) = 0 := by
    rw [List.count_eq_zero, mem_granted_singleton]
    exact other
  -- In most cases the entry of the task stays as it is.
  have untouched (other : event.granted? ≠ some (.start id))
      (found : after.service.tasks.get? id = some task) :
      ∃ later, after.service.tasks.get? id = some later ∧
        Continues before.service after.service task later ∧
        (granted [event]).count (.start id) + task.started.toNat = later.started.toNat := by
    refine ⟨task, found, .of_finished turn.finished_subset task, ?_⟩
    rw [unstarted other, Nat.zero_add]
  cases turn with
  | still harmless unwritten tasks finished shutdowns =>
      apply untouched
      · intro answered
        cases harmless _ answered
      · rw [tasks]
        exact found
  | @created creation vacant tasks finished shutdowns =>
      apply untouched nofun
      have elsewhere : id ≠ creation.id := by
        intro here
        rw [here, vacant] at found
        cases found
      rw [tasks]
      exact (Table.get?_put_ne _ _ elsewhere).trans found
  | @started there other foundThere idle tasks finished shutdowns =>
      by_cases here : id = there
      · subst here
        rw [foundThere, Option.some.injEq] at found
        subst found
        refine ⟨{ other with started := true }, ?_, ⟨rfl, fun _ => rfl, ?_⟩, ?_⟩
        · rw [tasks]
          exact Table.get?_put_self _ _ _
        · rw [isDone_iff, isDone_iff, finished]
          exact fun done => ⟨done, rfl, rfl⟩
        · rw [idle]
          simp [granted, Event.granted?]
      · apply untouched
        · intro answered
          cases answered
          exact here rfl
        · rw [tasks]
          exact (Table.get?_put_ne _ _ here).trans found
  | @deleted there other foundThere done tasks finished shutdowns =>
      apply untouched nofun
      have elsewhere : id ≠ there := by
        intro here
        exact kept (congrArg (fun id => some (Request.delete id)) here.symm)
      rw [tasks]
      exact (Table.get?_erase_ne _ elsewhere).trans found
  | shutdown tasks finished shutdowns =>
      apply untouched nofun
      rw [tasks]
      exact found
  | @recorded entry other foundThere own pending tasks finished shutdowns =>
      by_cases here : id = entry.waiter.id
      · subst here
        rw [foundThere, Option.some.injEq] at found
        subst found
        refine ⟨{ other with exitStatus := entry.status, exitTime := some entry.time }, ?_,
          ⟨rfl, fun started => started, ?_⟩, ?_⟩
        · rw [tasks]
          exact Table.get?_put_self _ _ _
        · rw [pending]
          exact nofun
        · rw [unstarted nofun, Nat.zero_add]
      · apply untouched nofun
        rw [tasks]
        exact (Table.get?_put_ne _ _ here).trans found

theorem History.continues (history : History before events after) (sound : Sound before)
    (found : before.service.tasks.get? id = some task) (kept : .delete id ∉ granted events) :
    ∃ later, after.service.tasks.get? id = some later ∧
      Continues before.service after.service task later ∧
      (granted events).count (.start id) + task.started.toNat = later.started.toNat := by
  induction history generalizing task with
  | nil system =>
      exact ⟨task, found, .of_finished (List.Subset.refl _) task, by simp [granted]⟩
  | cons first rest ih =>
      rw [granted_cons, List.mem_append, not_or, mem_granted_singleton] at kept
      obtain ⟨middle, foundThen, continues, startsFirst⟩ :=
        (first.turn sound).continues found kept.1
      obtain ⟨later, foundLater, continuesLater, startsRest⟩ :=
        ih (step_sound sound first.step) foundThen kept.2
      refine ⟨later, foundLater, continues.trans continuesLater, ?_⟩
      rw [granted_cons, List.count_append]
      omega

theorem Turn.vacant (turn : Turn before after event)
    (vacant : before.service.tasks.get? id = none)
    (unused : ∀ creation, event.granted? = some (.create creation) → creation.id ≠ id) :
    after.service.tasks.get? id = none := by
  -- A change of an entry that is there leaves this one missing.
  have elsewhere {there : Bytes} {other : Task}
      (found : before.service.tasks.get? there = some other) : id ≠ there := by
    intro here
    rw [← here, vacant] at found
    cases found
  cases turn with
  | still _ _ tasks _ _ => exact (congrArg (Table.get? · id) tasks).trans vacant
  | created _ tasks _ _ =>
      rw [tasks]
      exact (Table.get?_put_ne _ _ (unused _ rfl).symm).trans vacant
  | started found _ tasks _ _ =>
      rw [tasks]
      exact (Table.get?_put_ne _ _ (elsewhere found)).trans vacant
  | deleted found _ tasks _ _ =>
      rw [tasks]
      exact (Table.get?_erase_ne _ (elsewhere found)).trans vacant
  | shutdown tasks _ _ => exact (congrArg (Table.get? · id) tasks).trans vacant
  | recorded found _ _ tasks _ _ =>
      rw [tasks]
      exact (Table.get?_put_ne _ _ (elsewhere found)).trans vacant

theorem Turn.vacated (turn : Turn before after event)
    (deleted : event.granted? = some (.delete id)) : after.service.tasks.get? id = none := by
  cases turn with
  | still harmless => cases harmless _ deleted
  | created | started | shutdown | recorded => cases deleted
  | deleted _ _ tasks _ _ =>
      cases deleted
      rw [tasks]
      exact Table.get?_erase_self _ _

/-- A deletion takes the task away, whatever state the system is in. -/
theorem Happens.vacates (happens : Happens before event after)
    (deleted : event.granted? = some (.delete id)) : after.service.tasks.get? id = none := by
  cases happens with
  | request interruption request free =>
      exact (handle_effect interruption request free).turn.vacated deleted
  | exit | notice | record | drift => cases deleted

theorem History.vacant (history : History before events after) (sound : Sound before)
    (vacant : before.service.tasks.get? id = none)
    (unused : ∀ creation, .create creation ∈ granted events → creation.id ≠ id) :
    after.service.tasks.get? id = none := by
  induction history with
  | nil => exact vacant
  | cons first rest ih =>
      rw [granted_cons] at unused
      apply ih (step_sound sound first.step)
      · apply (first.turn sound).vacant vacant
        intro creation answered
        exact unused creation (List.mem_append_left _ (mem_granted_singleton.mpr answered))
      · exact fun creation member => unused creation (List.mem_append_right _ member)

end Persistence

section Reporting

/-- What is told of the task under an id. -/
def System.Reports (system : System) (id : Bytes) (state : State) : Prop :=
  ∀ interruption, (system.service.handle interruption (.state id)).1 = .ok (.state state)

/-- A later report of the same task. -/
structure Advances (first second : State) : Prop where
  id : second.id = first.id
  bundle : second.bundle = first.bundle
  pid : second.pid = first.pid
  stdio : second.stdio = first.stdio
  forward : first.status.rank ≤ second.status.rank
  final : first.status = .stopped → second = first

variable {system : System} {service before after : Service} {id : Bytes} {task later : Task}

theorem get_of_found (found : service.tasks.get? id = some task) : service.get id = .ok task := by
  rw [get, found]

theorem get_of_vacant (vacant : service.tasks.get? id = none) :
    service.get id = .error (missing id) := by
  rw [get, vacant]

theorem reports_iff {state : State} :
    system.Reports id state ↔
      ∃ task, system.service.tasks.get? id = some task ∧
        state = system.service.stateOf id task := by
  constructor
  · intro reports
    have told : (system.service.inspect id _).1 = .ok (.state state) := reports none
    unfold inspect at told
    cases found : system.service.tasks.get? id with
    | none =>
        rw [get_of_vacant found] at told
        cases told
    | some task =>
        rw [get_of_found found] at told
        cases told
        exact ⟨task, rfl, rfl⟩
  · rintro ⟨task, found, rfl⟩ interruption
    change (system.service.inspect id _).1 = _
    rw [inspect, get_of_found found]
    rfl

theorem statusOf_eq_stopped_iff :
    service.statusOf task = .stopped ↔ service.isDone task = true := by
  unfold statusOf
  by_cases done : service.isDone task = true
  · simp [done]
  · by_cases started : task.started = true
    · simp [done, started]
    · simp [done, started]

theorem Continues.advances (continues : Continues before after task later) (id : Bytes) :
    Advances (before.stateOf id task) (after.stateOf id later) := by
  have bundle : later.bundle = task.bundle := by rw [continues.same]
  have pid : later.pid = task.pid := by rw [continues.same]
  have stdio : later.stdio = task.stdio := by rw [continues.same]
  refine ⟨rfl, bundle, congrArg low pid, stdio, continues.rank_le, ?_⟩
  intro stopped
  have done := statusOf_eq_stopped_iff.mp stopped
  obtain ⟨doneLater, exitStatus, exitTime⟩ := continues.done done
  have status : after.statusOf later = before.statusOf task :=
    (statusOf_eq_stopped_iff.mpr doneLater).trans stopped.symm
  simp only [stateOf, Task.exit, bundle, pid, stdio, status, exitStatus, exitTime]

/-- A task is deleted when it is stopped, and the answer is what was told of it last. -/
theorem delete_ok_iff (interruption : Option Interruption) (reply : Reply) :
    (system.service.handle interruption (.delete id)).1 = .ok reply ↔
      ∃ state, system.Reports id state ∧ state.status = .stopped ∧
        reply = .deleted state.pid state.exit := by
  change (system.service.delete id).1 = _ ↔ _
  unfold delete
  cases found : system.service.tasks.get? id with
  | none =>
      rw [get_of_vacant found]
      constructor
      · exact nofun
      · rintro ⟨state, reports, _⟩
        obtain ⟨task, foundTask, _⟩ := reports_iff.mp reports
        rw [found] at foundTask
        cases foundTask
  | some task =>
      rw [get_of_found found]
      dsimp only
      by_cases done : system.service.isDone task = true
      · rw [if_pos done]
        constructor
        · intro answered
          cases answered
          exact ⟨_, reports_iff.mpr ⟨task, found, rfl⟩, statusOf_eq_stopped_iff.mpr done, rfl⟩
        · rintro ⟨state, reports, _, rfl⟩
          obtain ⟨other, foundOther, rfl⟩ := reports_iff.mp reports
          rw [found, Option.some.injEq] at foundOther
          subst foundOther
          rfl
      · rw [if_neg done]
        constructor
        · exact nofun
        · rintro ⟨state, reports, stopped, _⟩
          obtain ⟨other, foundOther, rfl⟩ := reports_iff.mp reports
          rw [found, Option.some.injEq] at foundOther
          subst foundOther
          exact absurd (statusOf_eq_stopped_iff.mp stopped) done

theorem handle_vacant (vacant : service.tasks.get? id = none) {request : Request}
    (aimed : request.target? = some id) (interruption : Option Interruption) :
    service.handle interruption request = (.error (missing id), service) := by
  have unknown := get_of_vacant vacant
  cases request with
  | start _ | delete _ | state _ | kill _ _ | pids _ | closeIO _ _ | connect _ | wait _ =>
      cases aimed
      simp only [handle, start, delete, kill, closeIO, wait, inspect, ticketOf, unknown, Except.map]
  | create | exec | resizePty | pause | resume | checkpoint | update | stats | shutdown =>
      cases aimed

theorem missing_is_notFound (id : Bytes) : (missing id).is (.category .notFound) = true :=
  rfl

end Reporting

section Lifecycle

variable {before system after : System} {events : List Event} {creation : Creation} {reply : Reply}

theorem created_reports (sound : Sound before)
    (happens : Happens before (.answered (.create creation) (.ok reply)) system) :
    system.Reports creation.id
      { id := creation.id
        bundle := creation.bundle
        pid := low before.service.host.nextPid
        status := .created
        stdio := creation.stdio
        exit := ⟨0, none⟩ } := by
  obtain ⟨_, _, _, _, _, _, _, made⟩ := happens_created happens
  refine reports_iff.mpr ⟨_, created_found happens, ?_⟩
  have pending : system.service.isDone
      (creation.task before.service.host.nextPid before.service.nextTicket) = false := by
    rw [isDone_eq_false_iff, made]
    exact sound.booked.unfinished
  simp only [stateOf, statusOf, pending]
  rfl

/-- The exit of a task that was created at the beginning of a history is an end of its process
in that history. -/
theorem created_exit (sound : Sound before)
    (happens : Happens before (.answered (.create creation) (.ok reply)) system)
    (history : History system events after) (kept : .delete creation.id ∉ granted events)
    {task : Task} (found : after.service.tasks.get? creation.id = some task)
    (done : after.service.isDone task = true) :
    ∃ earlier event later ending time,
      Occurs system events after earlier event later ∧
      Ends earlier before.service.host.nextPid event ending ∧
      task.exitStatus = exitStatus ending ∧ task.exitTime = some time ∧
      ⟨⟨creation.id, before.service.host.nextPid, before.service.nextTicket⟩, exitStatus ending,
        time⟩ ∈ after.recorded := by
  have soundThen := step_sound sound happens.step
  have soundLater := history.sound soundThen
  -- The task that is found is the one that was created, so that its waiter is the one that lives.
  obtain ⟨later, foundLater, continues, _⟩ :=
    history.continues soundThen (created_found happens) kept
  rw [found, Option.some.injEq] at foundLater
  subst foundLater
  have own : task.waiter creation.id =
      ⟨creation.id, before.service.host.nextPid, before.service.nextTicket⟩ := by
    rw [continues.same]
    rfl
  have lives := created_lives sound happens
  rw [← own] at lives
  rcases history.lives soundThen lives with
    lives | ⟨earlier, event, last, ending, occurs, ends, exited⟩
  · exact absurd (isDone_iff.mp done) (soundLater.booked.owned _ lives.unseen.waits).1
  · obtain ⟨status, time, exitTime, entry⟩ :=
      exited.exit_eq soundLater found (isDone_iff.mp done)
    rw [own] at ends entry
    exact ⟨earlier, event, last, ending, time, occurs, ends, status, exitTime, entry⟩

theorem exitStatus_tells (ending : Host.Ending) :
    (∀ code, ending = .exited code → exitStatus ending = code) ∧
    (∀ signal, ending = .signaled signal → exitStatus ending = 128 + signal) ∧
    (ending = .unknown → exitStatus ending = 255) := by
  refine ⟨?_, ?_, ?_⟩
  · rintro code rfl
    rfl
  · rintro signal rfl
    rfl
  · rintro rfl
    rfl

/-- The life of a task. While it is not deleted it keeps its pid, its bundle and its fifos, is
started at most once, and what is told of it moves forward and stays as it is once it is stopped.
It begins as created, and the exit that is told in the end is the one end of its process, by its
exit code or by 128 and the signal that ended it. It is deleted when it is stopped and not before,
with that exit for an answer; from then on nothing can be asked of it, until its id is used
again. -/
theorem lifecycle_moves_forward (reachable : Reachable system)
    (history : History system events after) :
    (∀ id task, system.service.tasks.get? id = some task → .delete id ∉ granted events →
      ∃ later, after.service.tasks.get? id = some later ∧
        Continues system.service after.service task later ∧
        (granted events).count (.start id) + task.started.toNat ≤ 1 ∧
        system.Reports id (system.service.stateOf id task) ∧
        after.Reports id (after.service.stateOf id later) ∧
        Advances (system.service.stateOf id task) (after.service.stateOf id later)) ∧
    (∀ before creation reply, Reachable before →
      Happens before (.answered (.create creation) (.ok reply)) system →
      reply = .pid (low before.service.host.nextPid) ∧
      system.Reports creation.id
        { id := creation.id
          bundle := creation.bundle
          pid := low before.service.host.nextPid
          status := .created
          stdio := creation.stdio
          exit := ⟨0, none⟩ } ∧
      (.delete creation.id ∉ granted events → ∀ report, after.Reports creation.id report →
        report.status = .stopped →
        ∃ earlier event later ending status time,
          Occurs system events after earlier event later ∧
          Ends earlier before.service.host.nextPid event ending ∧
          ((∀ code, ending = .exited code → status = code) ∧
            (∀ signal, ending = .signaled signal → status = 128 + signal) ∧
            (ending = .unknown → status = 255)) ∧
          report.exit = ⟨low status, some time⟩ ∧
          ⟨⟨creation.id, before.service.host.nextPid, before.service.nextTicket⟩, status, time⟩ ∈
            after.recorded)) ∧
    (∀ interruption id reply, (after.service.handle interruption (.delete id)).1 = .ok reply ↔
      ∃ state, after.Reports id state ∧ state.status = .stopped ∧
        reply = .deleted state.pid state.exit) ∧
    (∀ before id reply, Happens before (.answered (.delete id) (.ok reply)) system →
      (∀ creation, .create creation ∈ granted events → creation.id ≠ id) →
      (missing id).is (.category .notFound) = true ∧
      after.service.exitOf id = .error (.labelled (utf8 "task was removed") (missing id)) ∧
      ∀ interruption request, request.target? = some id →
        after.service.handle interruption request = (.error (missing id), after.service)) := by
  have sound := reachable_sound reachable
  refine ⟨?_, ?_, fun interruption id reply => delete_ok_iff interruption reply, ?_⟩
  · intro id task found kept
    obtain ⟨later, foundLater, continues, starts⟩ := history.continues sound found kept
    refine ⟨later, foundLater, continues, ?_, reports_iff.mpr ⟨task, found, rfl⟩,
      reports_iff.mpr ⟨later, foundLater, rfl⟩, continues.advances id⟩
    rw [starts]
    exact Bool.toNat_le later.started
  · intro before creation reply reachableBefore happens
    have soundBefore := reachable_sound reachableBefore
    refine ⟨(happens_created happens).2.1, created_reports soundBefore happens, ?_⟩
    intro kept report reports stopped
    obtain ⟨task, found, rfl⟩ := reports_iff.mp reports
    obtain ⟨earlier, event, later, ending, time, occurs, ends, status, exitTime, entry⟩ :=
      created_exit soundBefore happens history kept found (statusOf_eq_stopped_iff.mp stopped)
    refine ⟨earlier, event, later, ending, exitStatus ending, time, occurs, ends,
      exitStatus_tells ending, ?_, entry⟩
    simp only [stateOf, Task.exit, status, exitTime]
  · intro before id reply happens unused
    have vacant := history.vacant sound (happens.vacates rfl) unused
    refine ⟨missing_is_notFound id, ?_, fun interruption request aimed =>
      handle_vacant vacant aimed interruption⟩
    rw [exitOf, get_of_vacant vacant]

def Sample.report : State where
  id := utf8 "a"
  bundle := utf8 "b"
  pid := 2
  status := .stopped
  stdio := {}
  exit := ⟨137, some 0⟩

theorem killed_task_reports_its_end :
    Sample.written.Reports Sample.creation.id Sample.report ∧
      ∃ earlier event later ending, ∃ status : Int, ∃ time,
        Occurs Sample.created Sample.killing Sample.written earlier event later ∧
        Ends earlier (System.initial Sample.host).service.host.nextPid event ending ∧
        (∀ signal, ending = .signaled signal → status = 128 + signal) ∧
        Sample.report.exit = ⟨low status, some time⟩ := by
  have kept : Request.delete Sample.creation.id ∉ granted Sample.killing := by decide +kernel
  have found : Sample.written.service.tasks.get? Sample.creation.id =
      some ⟨2, utf8 "b", {}, false, 0, 137, some 0, .nothing⟩ := by decide +kernel
  have told : Sample.report = Sample.written.service.stateOf Sample.creation.id
      ⟨2, utf8 "b", {}, false, 0, 137, some 0, .nothing⟩ := by decide +kernel
  have reports := reports_iff.mpr ⟨_, found, told⟩
  obtain ⟨_, create, _⟩ :=
    lifecycle_moves_forward Sample.created_reachable Sample.killing_history
  obtain ⟨_, _, tells⟩ := create _ _ _ Sample.initial_reachable Sample.created_happens
  obtain ⟨earlier, event, later, ending, status, time, occurs, ends, ⟨_, signaled, _⟩, exit, _⟩ :=
    tells kept Sample.report reports rfl
  exact ⟨reports, earlier, event, later, ending, status, time, occurs, ends, signaled, exit⟩

end Lifecycle

end Brainfuck.Service
