import Brainfuck.Proofs.History

/-!
When the service asks for its own end. It does so when the last task that was not done has exited,
in the very step in which that exit is written down, and at no other time.
-/

namespace Brainfuck.Service

section Idleness

def AllDone (service : Service) : Prop :=
  ∀ id task, service.tasks.get? id = some task → service.isDone task = true

variable {service : Service}

theorem isIdle_iff_allDone (distinct : service.tasks.keys.Nodup) :
    service.isIdle = true ↔ service.AllDone := by
  unfold isIdle
  rw [List.all_eq_true]
  constructor
  · intro idle id task found
    exact idle _ (Table.mem_of_get? found)
  · rintro done ⟨id, task⟩ member
    exact done id task (Table.get?_of_mem distinct member)

/-- All tasks are done when nobody has an exit left to write down. -/
theorem Sound.allDone_iff {system : System} (sound : Sound system) :
    system.service.AllDone ↔ system.service.waiters = [] := by
  rw [List.eq_nil_iff_forall_not_mem]
  constructor
  · intro done waiter waits
    obtain ⟨pending, task, found, same⟩ := sound.booked.owned waiter waits
    rw [← same] at pending
    exact pending (isDone_iff.mp (done waiter.id task found))
  · intro nobody id task found
    rcases sound.booked.awaited id task found with finished | waits
    · exact isDone_iff.mpr finished
    · exact absurd waits (nobody _)

end Idleness

section Counting

variable {before after : System} {event : Event} {events : List Event}

theorem Turn.distinct (turn : Turn before after event)
    (distinct : before.service.tasks.keys.Nodup) : after.service.tasks.keys.Nodup := by
  cases turn with
  | still _ _ tasks _ _ | shutdown tasks _ _ =>
      rw [tasks]
      exact distinct
  | created _ tasks _ _ | started _ _ tasks _ _ | recorded _ _ _ tasks _ _ =>
      rw [tasks]
      exact Table.nodup_keys_put distinct _ _
  | deleted _ _ tasks _ _ =>
      rw [tasks]
      exact Table.nodup_keys_erase distinct _

/-- Tasks, waiters and tickets belong together, and every id is in the table once. -/
structure Tidy (system : System) : Prop where
  sound : Sound system
  distinct : system.service.tasks.keys.Nodup

theorem initial_tidy (host : Host) : Tidy (.initial host) :=
  ⟨initial_sound host, List.nodup_nil⟩

theorem Happens.tidy (happens : Happens before event after) (tidy : Tidy before) : Tidy after :=
  ⟨step_sound tidy.sound happens.step, (happens.turn tidy.sound).distinct tidy.distinct⟩

theorem History.tidy (history : History before events after) (tidy : Tidy before) : Tidy after := by
  induction history with
  | nil => exact tidy
  | cons first _ ih => exact ih (first.tidy tidy)

/-- The count of shutdowns grows by one when a shutdown is asked for, and when an exit is written
down that leaves no task undone. -/
theorem Happens.shutdowns (happens : Happens before event after) (tidy : Tidy before) :
    after.service.shutdowns = before.service.shutdowns ∧ event.granted? ≠ some .shutdown ∧
        (∀ entry, event = .recorded entry → ¬ after.service.AllDone) ∨
      after.service.shutdowns = before.service.shutdowns + 1 ∧
        (event.granted? = some .shutdown ∨
          (∃ entry, event = .recorded entry) ∧ after.service.AllDone) := by
  have idle := isIdle_iff_allDone (happens.tidy tidy).distinct
  cases happens.turn tidy.sound with
  | still harmless unwritten _ _ shutdowns =>
      refine .inl ⟨shutdowns, fun granted => ?_, fun entry same => absurd same (unwritten entry)⟩
      cases harmless _ granted
  | created _ _ _ shutdowns | started _ _ _ _ shutdowns | deleted _ _ _ _ shutdowns =>
      exact .inl ⟨shutdowns, nofun, nofun⟩
  | shutdown _ _ shutdowns => exact .inr ⟨shutdowns, .inl rfl⟩
  | recorded _ _ _ _ _ shutdowns =>
      cases quiet : after.service.isIdle with
      | false =>
          rw [quiet] at shutdowns
          refine .inl ⟨shutdowns, nofun, fun _ _ done => ?_⟩
          rw [idle.mpr done] at quiet
          cases quiet
      | true =>
          rw [quiet] at shutdowns
          exact .inr ⟨shutdowns, .inr ⟨⟨_, rfl⟩, idle.mp quiet⟩⟩

theorem History.shutdowns_le (history : History before events after) (tidy : Tidy before) :
    before.service.shutdowns ≤ after.service.shutdowns := by
  induction history with
  | nil => exact Nat.le_refl _
  | cons first _ ih =>
      have rest := ih (first.tidy tidy)
      rcases first.shutdowns tidy with ⟨same, _⟩ | ⟨more, _⟩
      · omega
      · omega

theorem created_busy {creation : Creation} {reply : Reply} (sound : Sound before)
    (happens : Happens before (.answered (.create creation) (.ok reply)) after) :
    ¬ after.service.AllDone := by
  intro idle
  generalize named : Event.answered (.create creation) (.ok reply) = event at happens
  cases happens.turn sound with
  | still harmless =>
      subst named
      cases harmless _ rfl
  | created _ tasks finished _ =>
      -- The ticket of the new task is one that was never given out.
      have done := idle _ _ (by rw [tasks]; exact Table.get?_put_self _ _ _)
      rw [isDone_iff, finished] at done
      exact sound.booked.unfinished done
  | started | deleted | shutdown | recorded => cases named

/-- Only an exit that is written down can be what makes all tasks done. -/
theorem Happens.last_exit (happens : Happens before event after) (sound : Sound before)
    (busy : ¬ before.service.AllDone) (idle : after.service.AllDone) :
    ∃ entry, event = .recorded entry := by
  have turn := happens.turn sound
  cases turn with
  | recorded => exact ⟨_, rfl⟩
  | created => exact absurd idle (created_busy sound happens)
  | still _ _ tasks finished _ | shutdown tasks finished _ =>
      refine absurd (fun id task found => ?_) busy
      rw [← isDone_eq finished]
      exact idle id task (tasks ▸ found)
  | @started there other foundThere _ tasks finished _ =>
      refine absurd (fun id task found => ?_) busy
      rw [← isDone_eq finished]
      by_cases here : id = there
      · subst here
        cases foundThere.symm.trans found
        -- A task that was started has kept its ticket.
        exact idle id { other with started := true }
          (by rw [tasks]; exact Table.get?_put_self _ _ _)
      · exact idle id task (by rw [tasks]; exact (Table.get?_put_ne _ _ here).trans found)
  | @deleted there other foundThere gone tasks finished _ =>
      refine absurd (fun id task found => ?_) busy
      by_cases here : id = there
      · subst here
        cases foundThere.symm.trans found
        exact gone
      · rw [← isDone_eq finished]
        exact idle id task (by rw [tasks]; exact (Table.get?_erase_ne _ here).trans found)

/-- The service asks for its own end, and nobody else has asked for it. -/
def Retires (before : System) (event : Event) (after : System) : Prop :=
  before.service.shutdowns < after.service.shutdowns ∧ event.granted? ≠ some .shutdown

theorem Happens.retires_iff (happens : Happens before event after) (tidy : Tidy before) :
    Retires before event after ↔ (∃ entry, event = .recorded entry) ∧ after.service.AllDone := by
  constructor
  · rintro ⟨more, unasked⟩
    rcases happens.shutdowns tidy with ⟨same, _⟩ | ⟨_, asked | last⟩
    · omega
    · exact absurd asked unasked
    · exact last
  · rintro ⟨⟨entry, rfl⟩, idle⟩
    rcases happens.shutdowns tidy with ⟨_, _, never⟩ | ⟨more, _⟩
    · exact absurd idle (never entry rfl)
    · exact ⟨by omega, nofun⟩

/-- Between a time at which some task was not done and one at which all are, the service has asked
for its end. -/
theorem History.retires (history : History before events after) (tidy : Tidy before)
    (busy : ¬ before.service.AllDone) (idle : after.service.AllDone) :
    ∃ earlier event later, Occurs before events after earlier event later ∧
      Retires earlier event later := by
  induction history with
  | nil => exact absurd idle busy
  | @cons _ middle _ event _ first rest ih =>
      -- Either the first event was the last exit, or the last exit is still to come.
      by_cases done : middle.service.AllDone
      · have last := first.last_exit tidy.sound busy done
        exact ⟨_, event, middle, .head first rest, (first.retires_iff tidy).mpr ⟨last, done⟩⟩
      · obtain ⟨earlier, event, later, occurs, retires⟩ := ih (first.tidy tidy) done idle
        exact ⟨earlier, event, later, occurs.tail first, retires⟩

theorem Occurs.tidy {earlier later : System}
    (occurs : Occurs before events after earlier event later) (tidy : Tidy before) : Tidy earlier := by
  obtain ⟨_, _, _, history, _, _⟩ := occurs
  exact history.tidy tidy

theorem Occurs.shutdowns_pos {earlier later : System}
    (occurs : Occurs before events after earlier event later) (tidy : Tidy before)
    (retires : Retires earlier event later) : 0 < after.service.shutdowns := by
  have tidyEarlier := occurs.tidy tidy
  obtain ⟨_, _, _, _, happens, rest⟩ := occurs
  have kept := rest.shutdowns_le (happens.tidy tidyEarlier)
  have more := retires.1
  omega

end Counting

section Retirement

variable {host : Host} {events : List Event} {system : System}

/-- The service asks for its own end exactly when an exit is written down that leaves every task in
the table done. After every task that was created it has done so once nobody waits for an exit any
more. -/
theorem retires_with_last_task (history : History (.initial host) events system) :
    (∀ earlier event later, Occurs (.initial host) events system earlier event later →
      (Retires earlier event later ↔
        (∃ entry, event = .recorded entry) ∧ later.service.AllDone)) ∧
    (system.service.AllDone ↔ system.service.waiters = []) ∧
    (∀ front creation reply back,
      events = front ++ .answered (.create creation) (.ok reply) :: back →
      system.service.AllDone →
      0 < system.service.shutdowns ∧
      ∃ created earlier event later,
        History (.initial host) (front ++ [.answered (.create creation) (.ok reply)]) created ∧
        Occurs created back system earlier event later ∧ Retires earlier event later) := by
  have tidy := initial_tidy host
  refine ⟨?_, (history.tidy tidy).sound.allDone_iff, ?_⟩
  · intro earlier event later occurs
    have tidyEarlier := occurs.tidy tidy
    obtain ⟨_, _, _, _, happens, _⟩ := occurs
    exact happens.retires_iff tidyEarlier
  · intro front creation reply back parts idle
    rw [parts] at history
    obtain ⟨before, past, rest⟩ := history.split
    cases rest with
    | @cons _ created _ _ _ creates future =>
        have tidyBefore := past.tidy tidy
        have tidyCreated := creates.tidy tidyBefore
        have busy := created_busy tidyBefore.sound creates
        obtain ⟨earlier, event, later, occurs, retires⟩ := future.retires tidyCreated busy idle
        exact ⟨occurs.shutdowns_pos tidyCreated retires, created, earlier, event, later,
          past.append (.cons creates (.nil created)), occurs, retires⟩

theorem killed_sample_retires :
    Sample.written.service.AllDone ∧ 0 < Sample.written.service.shutdowns := by
  have history : History (.initial Sample.host)
      (.answered (.create Sample.creation) (.ok (.pid 2)) :: Sample.killing) Sample.written :=
    .cons Sample.created_happens Sample.killing_history
  obtain ⟨_, idle_iff, retired⟩ := retires_with_last_task history
  have nobody : Sample.written.service.waiters = [] := by decide +kernel
  have idle := idle_iff.mpr nobody
  exact ⟨idle, (retired [] _ _ _ rfl idle).1⟩

end Retirement

end Brainfuck.Service
