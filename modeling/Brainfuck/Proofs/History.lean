import Brainfuck.Proofs.BundleRun
import Brainfuck.Proofs.Exits

/-!
Histories of runs. Of some events a history can be asked where in it they occur, and of requests
whether they were granted. What one event can do to the table of tasks is said once, and every
statement about histories is derived from that.
-/

namespace Brainfuck.Service

section Events

/-- The request that was answered without an error. -/
def Event.granted? : Event → Option Request
  | .answered request (.ok _) => some request
  | _ => none

def granted (events : List Event) : List Request :=
  events.filterMap Event.granted?

variable {before middle after : System} {event : Event} {events : List Event}

theorem History.split {later : List Event} (history : History before (events ++ later) after) :
    ∃ middle, History before events middle ∧ History middle later after := by
  induction events generalizing before with
  | nil => exact ⟨before, .nil before, history⟩
  | cons event rest ih =>
      cases history with
      | cons first others =>
          obtain ⟨middle, past, future⟩ := ih others
          exact ⟨middle, .cons first past, future⟩

theorem Reachable.run (reachable : Reachable before) (run : Run before after) :
    Reachable after := by
  obtain ⟨host, start⟩ := reachable
  exact ⟨host, start.trans run⟩

theorem Reachable.step (reachable : Reachable before) (step : Step before after) :
    Reachable after :=
  reachable.run (.next step (.refl _))

/-- An event of a history, with the states before and after it. -/
def Occurs (before : System) (events : List Event) (after earlier : System) (event : Event)
    (later : System) : Prop :=
  ∃ front back, events = front ++ event :: back ∧ History before front earlier ∧
    Happens earlier event later ∧ History later back after

theorem Occurs.head (first : Happens before event middle) (rest : History middle events after) :
    Occurs before (event :: events) after before event middle :=
  ⟨[], events, rfl, .nil before, first, rest⟩

theorem Occurs.tail {earlier later : System} {other : Event} (first : Happens before other middle)
    (occurs : Occurs middle events after earlier event later) :
    Occurs before (other :: events) after earlier event later := by
  obtain ⟨front, back, same, history, happens, rest⟩ := occurs
  exact ⟨other :: front, back, congrArg (other :: ·) same, .cons first history, happens, rest⟩

end Events

section Turns

def isIdle (service : Service) : Bool :=
  service.tasks.all fun entry => service.isDone entry.2

theorem record_shutdowns {service : Service} {waiter : Waiter} {task : Task}
    (found : service.tasks.get? waiter.id = some task) (ending : Host.Ending) :
    (service.record waiter ending).shutdowns =
      service.shutdowns + (service.record waiter ending).isIdle.toNat := by
  simp only [record, found]
  unfold shutDownIfIdle
  split
  · rename_i idle
    exact congrArg (fun count : Bool => service.shutdowns + count.toNat) idle.symm
  · rename_i busy
    exact congrArg (fun count : Bool => service.shutdowns + count.toNat)
      (Bool.eq_false_iff.mpr busy).symm

def Creation.task (creation : Creation) (pid : Pid) (ticket : Ticket) : Task where
  pid := pid
  bundle := creation.bundle
  stdio := creation.stdio
  ticket := ticket
  closer := if creation.stdio.stdin = [] then .nothing else .process pid

theorem enter_tasks (service : Service) (creation : Creation) (pid : Pid) :
    (enter service creation pid).tasks =
      service.tasks.put creation.id (creation.task pid service.nextTicket) :=
  rfl

/-- All that an event can do to the tasks and to the count of shutdowns. -/
inductive Turn (before after : System) : Event → Prop where
  | still {event : Event}
      (harmless : ∀ request, event.granted? = some request → request.changes = false)
      (unwritten : ∀ entry, event ≠ .recorded entry)
      (tasks : after.service.tasks = before.service.tasks)
      (finished : after.service.finished = before.service.finished)
      (shutdowns : after.service.shutdowns = before.service.shutdowns) : Turn before after event
  | created {creation : Creation} (vacant : before.service.tasks.get? creation.id = none)
      (tasks : after.service.tasks = before.service.tasks.put creation.id
        (creation.task before.service.host.nextPid before.service.nextTicket))
      (finished : after.service.finished = before.service.finished)
      (shutdowns : after.service.shutdowns = before.service.shutdowns) :
      Turn before after
        (.answered (.create creation) (.ok (.pid (low before.service.host.nextPid))))
  | started {id : Bytes} {task : Task} (found : before.service.tasks.get? id = some task)
      (idle : task.started = false)
      (tasks : after.service.tasks = before.service.tasks.put id { task with started := true })
      (finished : after.service.finished = before.service.finished)
      (shutdowns : after.service.shutdowns = before.service.shutdowns) :
      Turn before after (.answered (.start id) (.ok (.pid (low task.pid))))
  | deleted {id : Bytes} {task : Task} (found : before.service.tasks.get? id = some task)
      (done : before.service.isDone task = true)
      (tasks : after.service.tasks = before.service.tasks.erase id)
      (finished : after.service.finished = before.service.finished)
      (shutdowns : after.service.shutdowns = before.service.shutdowns) :
      Turn before after (.answered (.delete id) (.ok (.deleted (low task.pid) task.exit)))
  | shutdown (tasks : after.service.tasks = before.service.tasks)
      (finished : after.service.finished = before.service.finished)
      (shutdowns : after.service.shutdowns = before.service.shutdowns + 1) :
      Turn before after (.answered .shutdown (.ok .done))
  | recorded {entry : Entry} {task : Task}
      (found : before.service.tasks.get? entry.waiter.id = some task)
      (own : task.waiter entry.waiter.id = entry.waiter)
      (pending : before.service.isDone task = false)
      (tasks : after.service.tasks = before.service.tasks.put entry.waiter.id
        { task with exitStatus := entry.status, exitTime := some entry.time })
      (finished : after.service.finished = entry.waiter.ticket :: before.service.finished)
      (shutdowns : after.service.shutdowns =
        before.service.shutdowns + after.service.isIdle.toNat) :
      Turn before after (.recorded entry)

variable {before after : System} {event : Event}

theorem Effect.turn {system : System} {request : Request} {outcome : Outcome}
    (effect : Effect system.service request outcome) :
    Turn system { system with service := outcome.2 } (.answered request outcome.1) := by
  cases effect with
  | quiet refused kept =>
      rename_i reply host
      refine .still ?_ nofun rfl rfl rfl
      intro other answered
      cases reply with
      | error error => cases answered
      | ok value =>
          cases answered
          rw [Bool.eq_false_iff]
          intro changes
          obtain ⟨error, same⟩ := refused changes
          cases same
  | created vacant kept born => exact .created vacant rfl rfl rfl
  | started found idle kept => exact .started found idle rfl rfl rfl
  | deleted found done kept => exact .deleted found done rfl rfl rfl
  | shutdown => exact .shutdown rfl rfl rfl

theorem Happens.turn (sound : Sound before) (happens : Happens before event after) :
    Turn before after event := by
  cases happens with
  | request interruption request free => exact (handle_effect interruption request free).turn
  | exit pid ending => exact .still nofun nofun rfl rfl rfl
  | notice unseen known ended => exact .still nofun nofun rfl rfl rfl
  | drift files peers now nextPid refusals => exact .still nofun nofun rfl rfl rfl
  | record member =>
      rename_i sighting
      -- Whoever has seen something still waits, so the ticket is not finished yet.
      have waits := sound.watched.waiting sighting member
      obtain ⟨pending, _⟩ := sound.booked.owned sighting.waiter waits
      obtain ⟨task, _, found, own, result⟩ := sound.record_eq member
      rw [← own] at pending
      refine .recorded found own (isDone_eq_false_iff.mpr pending) ?_ ?_
        (record_shutdowns found sighting.ending)
      · exact congrArg Service.tasks result
      · exact congrArg Service.finished result

theorem History.sound {events : List Event} (history : History before events after)
    (sound : Sound before) : Sound after :=
  history.run.invariant (fun _ _ => step_sound) sound

end Turns

namespace Sample

theorem created_happens :
    Happens (.initial host) (.answered (.create creation) (.ok (.pid 2))) created := by
  have answered : ((System.initial host).service.handle none (.create creation)).1.toOption =
      some (.pid 2) := by decide +kernel
  rw [← eq_ok_of_toOption answered]
  exact creating_happens

theorem initial_reachable : Reachable (.initial host) :=
  ⟨host, .refl _⟩

theorem created_reachable : Reachable created :=
  initial_reachable.step created_happens.step

end Sample

end Brainfuck.Service
