import Brainfuck.Proofs.Lifecycle

/-!
Waiting for an exit takes two looks at the table, and other requests are answered in between. A
wait answers for the task that its first look has found, or says that this task is gone, as long as
the id is not used again between the looks. If it is, the second look finds another task, and tells
what is known of that one even if it has not exited.
-/

namespace Brainfuck.Service

section Looks

variable {service after : Service} {id : Bytes} {task : Task}

/-- What can be answered to a wait whose first look has found a ticket. -/
inductive Answers (service : Service) (id : Bytes) (ticket : Ticket) :
    Except Error Exit → Prop where
  | gaveUp (cause : Interruption) : Answers service id ticket (.error (.interrupted cause))
  | looked (finished : ticket ∈ service.finished) : Answers service id ticket (service.exitOf id)

theorem wait_answers (found : service.tasks.get? id = some task)
    (interruption : Option Interruption) :
    service.handle interruption (.wait id) = (.ok (.waiting task.ticket), service) ∨
      ∃ answer, service.handle interruption (.wait id) = (answer.map .exited, service) ∧
        Answers service id task.ticket answer := by
  have ticket : service.ticketOf id = .ok task.ticket := by
    rw [ticketOf, get_of_found found]
    rfl
  rw [handle, wait, ticket]
  dsimp only
  split
  · rename_i finished
    exact .inr ⟨_, rfl, .looked (isDone_iff.mp finished)⟩
  · cases interruption with
    | none => exact .inl rfl
    | some cause => exact .inr ⟨_, rfl, .gaveUp cause⟩

theorem record_finished (service : Service) (waiter : Waiter) (ending : Host.Ending) :
    waiter.ticket ∈ (service.record waiter ending).finished := by
  unfold record shutDownIfIdle
  dsimp only
  split
  · exact List.mem_cons_self
  · split
    · exact List.mem_cons_self
    · exact List.mem_cons_self

theorem collect_finished {ticket : Ticket} (collected : service.collect ticket = some after) :
    ticket ∈ after.finished := by
  unfold collect at collected
  obtain ⟨waiter, waits, collected⟩ := Option.bind_eq_some_iff.mp collected
  obtain ⟨process, known, collected⟩ := Option.bind_eq_some_iff.mp collected
  have own : waiter.ticket = ticket := by simpa using List.find?_some waits
  cases phase : process.phase with
  | stopped =>
      rw [phase] at collected
      cases collected
  | running files =>
      rw [phase] at collected
      cases collected
  | ended ending =>
      rw [phase] at collected
      cases collected
      rw [← own]
      exact record_finished _ waiter ending

/-- Letting the process come to its end is one way of getting to the second look. -/
theorem serve_answers {fuel : Nat} {interruption : Option Interruption} {reply : Except Error Reply}
    (found : service.tasks.get? id = some task)
    (served : service.serve fuel interruption (.wait id) = some (reply, after)) :
    ∃ answer, reply = answer.map .exited ∧ Answers after id task.ticket answer := by
  unfold serve at served
  rcases wait_answers found interruption with waits | ⟨answer, answered, answers⟩
  · rw [waits] at served
    obtain ⟨later, settled, answered⟩ := Option.bind_eq_some_iff.mp served
    cases answered
    obtain ⟨_, _, settled⟩ := Option.bind_eq_some_iff.mp settled
    obtain ⟨_, _, settled⟩ := Option.bind_eq_some_iff.mp settled
    obtain ⟨_, _, collected⟩ := Option.bind_eq_some_iff.mp settled
    exact ⟨_, rfl, .looked (collect_finished collected)⟩
  · rw [answered] at served
    cases answer with
    | error error =>
        cases served
        exact ⟨_, rfl, answers⟩
    | ok exit =>
        cases served
        exact ⟨_, rfl, answers⟩

end Looks

section Interleaving

variable {system after : System} {events : List Event} {id : Bytes} {task : Task}
  {answer : Except Error Exit}

theorem History.deleted (history : History system events after) (sound : Sound system)
    (deleted : .delete id ∈ granted events) :
    ∃ front back middle, granted events = granted front ++ .delete id :: granted back ∧
      Sound middle ∧ middle.service.tasks.get? id = none ∧ History middle back after := by
  induction history with
  | nil => cases deleted
  | @cons before middle after event events first rest ih =>
      rw [granted_cons, List.mem_append, mem_granted_singleton] at deleted
      rcases deleted with here | later
      · refine ⟨[], events, middle, ?_, step_sound sound first.step, ?_, rest⟩
        · rw [granted, List.filterMap_cons_some here]
          rfl
        · exact first.vacates here
      · obtain ⟨front, back, last, parts, found⟩ := ih (step_sound sound first.step) later
        refine ⟨event :: front, back, last, ?_, found⟩
        rw [granted_cons, granted_cons event front, parts, List.append_assoc]

/-- A wait answers for the task that its first look has found, or says that it is gone, if the id
was not used again after a deletion. -/
theorem wait_answers_for_its_task (reachable : Reachable system)
    (found : system.service.tasks.get? id = some task) (history : History system events after)
    (answers : Answers after.service id task.ticket answer)
    (unused : ∀ creation, [.delete id, .create creation].Sublist (granted events) →
      creation.id ≠ id) :
    (∃ cause, answer = .error (.interrupted cause)) ∨
      (.delete id ∈ granted events ∧
        answer = .error (.labelled (utf8 "task was removed") (missing id))) ∨
      ∃ status time, answer = .ok ⟨low status, some time⟩ ∧
        after.entriesOf task.ticket = [⟨task.waiter id, status, time⟩] := by
  have sound := reachable_sound reachable
  cases answers with
  | gaveUp cause => exact .inl ⟨cause, rfl⟩
  | looked finished =>
      by_cases deleted : .delete id ∈ granted events
      · -- From the deletion on the id stays vacant, since it is not used again.
        obtain ⟨front, back, middle, parts, soundMiddle, vacated, rest⟩ :=
          history.deleted sound deleted
        have vacant := rest.vacant soundMiddle vacated fun creation member => by
          apply unused creation
          rw [parts]
          refine .trans ?_ (List.sublist_append_right _ _)
          exact (List.singleton_sublist.mpr member).cons_cons _
        rw [exitOf, get_of_vacant vacant]
        exact .inr (.inl ⟨deleted, rfl⟩)
      · -- The task is still there, and its ticket stands for what was written down of it.
        obtain ⟨later, foundLater, continues, _⟩ := history.continues sound found deleted
        have ticket : later.ticket = task.ticket := by rw [continues.same]
        have waiter : later.waiter id = task.waiter id := by
          rw [continues.same]
          rfl
        rw [← ticket] at finished
        obtain ⟨_, time, exited, entries⟩ :=
          (history.sound sound).task_done foundLater finished
        rw [exitOf, get_of_found foundLater, ← ticket, ← waiter]
        refine .inr (.inr ⟨later.exitStatus, time, ?_, entries⟩)
        simp only [Task.exit, exited]

/-- Between the looks the sample was killed and deleted, and its id was used again. The answer is
that of a task that has not exited. -/
theorem renewed_sample_answers_for_another :
    Sample.created.service.ticketOf Sample.creation.id = .ok 0 ∧
      History Sample.created (Sample.killing ++ Sample.renewing) Sample.recreated ∧
      Answers Sample.recreated.service Sample.creation.id 0 (.ok ⟨0, none⟩) ∧
      Sample.recreated.entriesOf 0 = [⟨Sample.sighting.waiter, 137, 0⟩] ∧
      Sample.recreated.service.waiters = [⟨Sample.creation.id, 3, 1⟩] := by
  have first : (Sample.created.service.ticketOf Sample.creation.id).toOption = some 0 := by
    decide +kernel
  have second : (Sample.recreated.service.exitOf Sample.creation.id).toOption =
      some ⟨0, none⟩ := by decide +kernel
  have finished : 0 ∈ Sample.recreated.service.finished := by decide +kernel
  have answers : Answers Sample.recreated.service Sample.creation.id 0
      (Sample.recreated.service.exitOf Sample.creation.id) := .looked finished
  rw [eq_ok_of_toOption second] at answers
  refine ⟨eq_ok_of_toOption first, Sample.killing_history.append Sample.renewing_history, answers,
    ?_, ?_⟩
  · decide +kernel
  · decide +kernel

end Interleaving

end Brainfuck.Service
