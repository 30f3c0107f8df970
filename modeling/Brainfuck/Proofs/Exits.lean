import Brainfuck.Proofs.System

/-!
Who writes down which exit. Every task in the table is done, or somebody waits for its process
who was told so when the task was created; the ticket that the two share is what keeps them
together while ids and pids come and go.
-/

namespace Brainfuck

section Keyed

variable {Item Key : Type} {key : Item → Key} {items : List Item} {item : Item}

theorem filter_key_nil [DecidableEq Key] {wanted : Key} (absent : wanted ∉ items.map key) :
    items.filter (fun other => decide (key other = wanted)) = [] := by
  rw [List.filter_eq_nil_iff]
  intro other member same
  rw [decide_eq_true_eq] at same
  exact absent (same ▸ List.mem_map_of_mem member)

/-- With distinct keys there is one item to a key. -/
theorem filter_key_singleton [DecidableEq Key] (distinct : (items.map key).Nodup)
    (member : item ∈ items) :
    items.filter (fun other => decide (key other = key item)) = [item] := by
  induction items with
  | nil => cases member
  | cons first rest ih =>
      obtain ⟨apart, others⟩ := List.nodup_cons.mp distinct
      rcases List.mem_cons.mp member with same | later
      · subst same
        rw [List.filter_cons_of_pos (by simp), filter_key_nil apart]
      · have differ : key first ≠ key item := by
          intro same
          exact apart (same ▸ List.mem_map_of_mem later)
        rw [List.filter_cons_of_neg (by simpa using differ)]
        exact ih others later

theorem key_ne_of_mem_erase [DecidableEq Item] (distinct : (items.map key).Nodup)
    (member : item ∈ items) {other : Item} (left : other ∈ items.erase item) :
    key other ≠ key item := by
  have order := ((List.perm_cons_erase member).map key).nodup_iff.mp distinct
  intro same
  exact (List.nodup_cons.mp order).1 (same ▸ List.mem_map_of_mem left)

theorem nodup_map_erase [DecidableEq Item] (distinct : (items.map key).Nodup) :
    ((items.erase item).map key).Nodup :=
  distinct.sublist (List.erase_sublist.map key)

end Keyed

namespace Service

/-- The waiter that is told of a task when it is created. -/
def Task.waiter (task : Task) (id : Bytes) : Waiter :=
  ⟨id, task.pid, task.ticket⟩

/-- Tasks, tickets and waiters belong together, and what was written down is what the tasks
say. -/
structure Booked (service : Service) (recorded : List Entry) : Prop where
  given : ∀ id task, service.tasks.get? id = some task → task.ticket < service.nextTicket
  used : ∀ ticket ∈ service.finished, ticket < service.nextTicket
  apart : ∀ id other task rival, service.tasks.get? id = some task →
    service.tasks.get? other = some rival → task.ticket = rival.ticket → id = other
  awaited : ∀ id task, service.tasks.get? id = some task →
    task.ticket ∈ service.finished ∨ task.waiter id ∈ service.waiters
  owned : ∀ waiter ∈ service.waiters, waiter.ticket ∉ service.finished ∧
    ∃ task, service.tasks.get? waiter.id = some task ∧ task.waiter waiter.id = waiter
  distinct : (service.waiters.map Waiter.ticket).Nodup
  finished : service.finished = recorded.map fun entry => entry.waiter.ticket
  once : service.finished.Nodup
  written : ∀ id task, service.tasks.get? id = some task → task.ticket ∈ service.finished →
    ∃ time, task.exitTime = some time ∧ ⟨task.waiter id, task.exitStatus, time⟩ ∈ recorded

section Booking

variable {service : Service} {recorded : List Entry}

/-- Only the table, the waiters and the tickets count. -/
theorem Booked.of_eq {after : Service} (booked : Booked service recorded)
    (tasks : after.tasks = service.tasks) (finished : after.finished = service.finished)
    (waiters : after.waiters = service.waiters) (nextTicket : after.nextTicket = service.nextTicket) :
    Booked after recorded := by
  obtain ⟨⟩ := after
  cases tasks
  cases finished
  cases waiters
  cases nextTicket
  exact ⟨booked.given, booked.used, booked.apart, booked.awaited, booked.owned, booked.distinct,
    booked.finished, booked.once, booked.written⟩

theorem initial_booked (host : Host) : Booked { host } [] := by
  have empty : ∀ id, ({ host } : Service).tasks.get? id = none := fun _ => rfl
  constructor
  case used | owned => exact nofun
  case distinct | once => exact List.nodup_nil
  case finished => rfl
  case given | awaited | written | apart =>
    intro id
    simp only [empty, reduceCtorEq, false_implies, implies_true]

theorem Booked.waiter_given (booked : Booked service recorded) {waiter : Waiter}
    (waits : waiter ∈ service.waiters) : waiter.ticket < service.nextTicket := by
  obtain ⟨_, task, found, same⟩ := booked.owned waiter waits
  rw [← same]
  exact booked.given waiter.id task found

theorem Booked.unfinished (booked : Booked service recorded) :
    service.nextTicket ∉ service.finished := by
  intro member
  exact Nat.lt_irrefl _ (booked.used _ member)

/-- A new task and its waiter share a ticket that nobody has had before. -/
theorem enter_booked (booked : Booked service recorded) {creation : Creation} (pid : Pid)
    (vacant : service.tasks.get? creation.id = none) :
    Booked (enter service creation pid) recorded where
  given := by
    intro id task found
    rcases Table.get?_put_eq_some_iff.mp found with ⟨_, rfl⟩ | ⟨_, old⟩
    · exact Nat.lt_succ_self _
    · exact Nat.lt_succ_of_lt (booked.given id task old)
  used := fun ticket member => Nat.lt_succ_of_lt (booked.used ticket member)
  apart := by
    intro id other task rival found against same
    rcases Table.get?_put_eq_some_iff.mp found with ⟨here, rfl⟩ | ⟨_, old⟩
    · rcases Table.get?_put_eq_some_iff.mp against with ⟨there, _⟩ | ⟨_, older⟩
      · exact here.trans there.symm
      · exact absurd same.symm (Nat.ne_of_lt (booked.given other rival older))
    · rcases Table.get?_put_eq_some_iff.mp against with ⟨_, rfl⟩ | ⟨_, older⟩
      · exact absurd same (Nat.ne_of_lt (booked.given id task old))
      · exact booked.apart id other task rival old older same
  awaited := by
    intro id task found
    rcases Table.get?_put_eq_some_iff.mp found with ⟨rfl, rfl⟩ | ⟨_, old⟩
    · exact .inr List.mem_cons_self
    · exact (booked.awaited id task old).imp_right (List.mem_cons_of_mem _)
  owned := by
    intro waiter waits
    rcases List.mem_cons.mp waits with rfl | waits
    · exact ⟨booked.unfinished, _, Table.get?_put_self _ _ _, rfl⟩
    · obtain ⟨pending, task, found, same⟩ := booked.owned waiter waits
      have elsewhere : waiter.id ≠ creation.id := by
        intro here
        rw [here, vacant] at found
        cases found
      exact ⟨pending, task, (Table.get?_put_ne _ _ elsewhere).trans found, same⟩
  distinct := by
    refine List.nodup_cons.mpr ⟨?_, booked.distinct⟩
    intro member
    obtain ⟨waiter, waits, same⟩ := List.mem_map.mp member
    exact Nat.ne_of_lt (booked.waiter_given waits) same
  finished := booked.finished
  once := booked.once
  written := by
    intro id task found done
    rcases Table.get?_put_eq_some_iff.mp found with ⟨_, rfl⟩ | ⟨_, old⟩
    · exact absurd done booked.unfinished
    · exact booked.written id task old done

theorem start_booked (booked : Booked service recorded) {id : Bytes} {task : Task}
    (found : service.tasks.get? id = some task) :
    Booked { service with tasks := service.tasks.put id { task with started := true } }
      recorded := by
  -- A task that is found afterwards was there before, but for the mark that it has started.
  have back : ∀ other later,
      (service.tasks.put id { task with started := true }).get? other = some later →
      ∃ earlier, service.tasks.get? other = some earlier ∧
        later = { earlier with started := later.started } := by
    intro other later after
    rcases Table.get?_put_eq_some_iff.mp after with ⟨rfl, rfl⟩ | ⟨_, old⟩
    · exact ⟨task, found, rfl⟩
    · exact ⟨later, old, rfl⟩
  constructor
  case given =>
    intro other later after
    obtain ⟨earlier, before, same⟩ := back other later after
    rw [same]
    exact booked.given other earlier before
  case used => exact booked.used
  case apart =>
    intro first second one two after against equal
    obtain ⟨earlier, before, same⟩ := back first one after
    obtain ⟨rival, beside, alike⟩ := back second two against
    rw [same, alike] at equal
    exact booked.apart first second earlier rival before beside equal
  case awaited =>
    intro other later after
    obtain ⟨earlier, before, same⟩ := back other later after
    rw [same]
    exact booked.awaited other earlier before
  case owned =>
    intro waiter waits
    obtain ⟨pending, mine, before, same⟩ := booked.owned waiter waits
    refine ⟨pending, ?_⟩
    by_cases here : waiter.id = id
    · rw [here] at before
      rw [found, Option.some.injEq] at before
      subst before
      rw [here]
      exact ⟨_, Table.get?_put_self _ _ _, here ▸ same⟩
    · exact ⟨mine, (Table.get?_put_ne _ _ here).trans before, same⟩
  case distinct => exact booked.distinct
  case finished => exact booked.finished
  case once => exact booked.once
  case written =>
    intro other later after done
    obtain ⟨earlier, before, same⟩ := back other later after
    rw [same] at done ⊢
    exact booked.written other earlier before done

/-- Nobody waits for a task that is done, so that a task can be taken out of the table. -/
theorem delete_booked (booked : Booked service recorded) {id : Bytes} {task : Task}
    (found : service.tasks.get? id = some task) (done : task.ticket ∈ service.finished) :
    Booked { service with tasks := service.tasks.erase id } recorded where
  given := by
    intro other left after
    exact booked.given other left (Table.get?_erase_eq_some_iff.mp after).2
  used := booked.used
  apart := by
    intro first second one two after against
    exact booked.apart first second one two (Table.get?_erase_eq_some_iff.mp after).2
      (Table.get?_erase_eq_some_iff.mp against).2
  awaited := by
    intro other left after
    exact booked.awaited other left (Table.get?_erase_eq_some_iff.mp after).2
  owned := by
    intro waiter waits
    obtain ⟨pending, mine, before, same⟩ := booked.owned waiter waits
    have elsewhere : waiter.id ≠ id := by
      intro here
      rw [here, found, Option.some.injEq] at before
      subst before
      rw [← same] at pending
      exact pending done
    exact ⟨pending, mine, Table.get?_erase_eq_some_iff.mpr ⟨elsewhere, before⟩, same⟩
  distinct := booked.distinct
  finished := booked.finished
  once := booked.once
  written := by
    intro other left after
    exact booked.written other left (Table.get?_erase_eq_some_iff.mp after).2

theorem record_of_found {waiter : Waiter} {task : Task}
    (found : service.tasks.get? waiter.id = some task) (ending : Host.Ending) :
    ∃ shutdowns, service.record waiter ending =
      { service with
        tasks := service.tasks.put waiter.id
          { task with exitStatus := exitStatus ending, exitTime := some service.host.now }
        waiters := service.waiters.erase waiter
        finished := waiter.ticket :: service.finished
        shutdowns } := by
  simp only [record, found]
  unfold shutDownIfIdle
  split
  · exact ⟨_, rfl⟩
  · exact ⟨_, rfl⟩

theorem record_booked (booked : Booked service recorded) {waiter : Waiter}
    (waits : waiter ∈ service.waiters) (ending : Host.Ending) :
    Booked (service.record waiter ending)
      (⟨waiter, exitStatus ending, service.host.now⟩ :: recorded) := by
  obtain ⟨pending, task, found, same⟩ := booked.owned waiter waits
  have ticket : task.ticket = waiter.ticket := congrArg Waiter.ticket same
  obtain ⟨shutdowns, result⟩ := record_of_found found ending
  rw [result]
  constructor
  case given =>
    intro id later after
    rcases Table.get?_put_eq_some_iff.mp after with ⟨_, rfl⟩ | ⟨_, old⟩
    · exact booked.given waiter.id task found
    · exact booked.given id later old
  case used =>
    intro other member
    rcases List.mem_cons.mp member with rfl | member
    · exact booked.waiter_given waits
    · exact booked.used other member
  case apart =>
    intro first second one two after against equal
    rcases Table.get?_put_eq_some_iff.mp after with ⟨here, rfl⟩ | ⟨_, old⟩
    · rcases Table.get?_put_eq_some_iff.mp against with ⟨there, _⟩ | ⟨_, older⟩
      · exact here.trans there.symm
      · exact here.trans (booked.apart waiter.id second task two found older equal)
    · rcases Table.get?_put_eq_some_iff.mp against with ⟨there, rfl⟩ | ⟨_, older⟩
      · exact (booked.apart first waiter.id one task old found equal).trans there.symm
      · exact booked.apart first second one two old older equal
  case awaited =>
    intro id later after
    rcases Table.get?_put_eq_some_iff.mp after with ⟨_, rfl⟩ | ⟨elsewhere, old⟩
    · exact .inl (ticket ▸ List.mem_cons_self)
    · rcases booked.awaited id later old with done | waiting
      · exact .inl (List.mem_cons_of_mem _ done)
      · right
        have other : later.waiter id ≠ waiter := by
          intro equal
          exact elsewhere (congrArg Waiter.id equal)
        exact (List.mem_erase_of_ne other).mpr waiting
  case owned =>
    intro other left
    have differ := key_ne_of_mem_erase booked.distinct waits left
    obtain ⟨unfinished, mine, before, alike⟩ := booked.owned other (List.mem_of_mem_erase left)
    -- A task has one ticket, so that two waiters are never told of one id.
    have elsewhere : other.id ≠ waiter.id := by
      intro here
      rw [here, found, Option.some.injEq] at before
      subst before
      exact differ ((congrArg Waiter.ticket alike).symm.trans ticket)
    refine ⟨?_, mine, (Table.get?_put_ne _ _ elsewhere).trans before, alike⟩
    intro member
    rcases List.mem_cons.mp member with equal | member
    · exact differ equal
    · exact unfinished member
  case distinct => exact nodup_map_erase booked.distinct
  case finished => exact congrArg (waiter.ticket :: ·) booked.finished
  case once => exact List.nodup_cons.mpr ⟨pending, booked.once⟩
  case written =>
    intro id later after done
    rcases Table.get?_put_eq_some_iff.mp after with ⟨rfl, rfl⟩ | ⟨elsewhere, old⟩
    · exact ⟨_, rfl, same ▸ List.mem_cons_self⟩
    · rcases List.mem_cons.mp done with equal | member
      · have here := booked.apart id waiter.id later task old found (equal.trans ticket.symm)
        exact absurd here elsewhere
      · obtain ⟨time, exited, entry⟩ := booked.written id later old member
        exact ⟨time, exited, List.mem_cons_of_mem _ entry⟩

end Booking

/-- Who has seen something still waits, and the process of everybody else is known to the host
under a pid of its own. -/
structure Watched (system : System) : Prop where
  waiting : ∀ sighting ∈ system.seen, sighting.waiter ∈ system.service.waiters
  once : (system.seen.map Sighting.waiter).Nodup
  known : ∀ waiter, system.Unseen waiter →
    ∃ process, system.service.host.processes.get? waiter.pid = some process
  apart : ∀ first second, system.Unseen first → system.Unseen second →
    first.pid = second.pid → first = second

section Watching

variable {system after : System}

theorem initial_watched (host : Host) : Watched (.initial host) where
  waiting := nofun
  once := List.nodup_nil
  known := fun _ unseen => nomatch unseen.waits
  apart := fun _ _ unseen => nomatch unseen.waits

theorem Watched.of_survives (watched : Watched system)
    (waiters : after.service.waiters = system.service.waiters) (seen : after.seen = system.seen)
    (kept : system.service.host.Survives after.service.host) : Watched after := by
  have back : ∀ waiter, after.Unseen waiter → system.Unseen waiter := by
    intro waiter unseen
    exact ⟨waiters ▸ unseen.waits, seen ▸ unseen.fresh⟩
  constructor
  case waiting =>
    rw [seen, waiters]
    exact watched.waiting
  case once =>
    rw [seen]
    exact watched.once
  case known =>
    intro waiter unseen
    obtain ⟨process, known⟩ := watched.known waiter (back waiter unseen)
    obtain ⟨later, knownLater, _⟩ := kept waiter.pid process known
    exact ⟨later, knownLater⟩
  case apart =>
    intro first second one two
    exact watched.apart first second (back first one) (back second two)

/-- A pid that nobody has is given to the process of the new waiter. -/
theorem enter_watched (watched : Watched system) (creation : Creation) {host : Host}
    {process : Host.Process}
    (free : system.service.host.alive system.service.host.nextPid = false)
    (kept : system.service.host.Survives host)
    (born : host.processes.get? system.service.host.nextPid = some process) :
    Watched { system with
      service := enter { system.service with host } creation system.service.host.nextPid } := by
  -- Whoever is unseen afterwards is new, or was unseen and has another pid.
  have back : ∀ waiter, System.Unseen { system with
      service := enter { system.service with host } creation system.service.host.nextPid } waiter →
      waiter = ⟨creation.id, system.service.host.nextPid, system.service.nextTicket⟩ ∨
      system.Unseen waiter ∧ waiter.pid ≠ system.service.host.nextPid := by
    intro waiter unseen
    rcases List.mem_cons.mp unseen.waits with new | waits
    · exact .inl new
    · have old : system.Unseen waiter := ⟨waits, unseen.fresh⟩
      refine .inr ⟨old, ?_⟩
      intro same
      obtain ⟨mine, known⟩ := watched.known waiter old
      rw [← same, Host.alive, Table.contains, known] at free
      cases free
  constructor
  case waiting =>
    intro sighting member
    exact List.mem_cons_of_mem _ (watched.waiting sighting member)
  case once => exact watched.once
  case known =>
    intro waiter unseen
    rcases back waiter unseen with rfl | ⟨old, _⟩
    · exact ⟨process, born⟩
    · obtain ⟨mine, known⟩ := watched.known waiter old
      obtain ⟨later, knownLater, _⟩ := kept waiter.pid mine known
      exact ⟨later, knownLater⟩
  case apart =>
    intro first second one two same
    rcases back first one with rfl | ⟨old, other⟩
    · rcases back second two with rfl | ⟨_, apart⟩
      · rfl
      · exact absurd same.symm apart
    · rcases back second two with rfl | ⟨older, _⟩
      · exact absurd same other
      · exact watched.apart first second old older same

theorem notice_watched (watched : Watched system) {waiter : Waiter} (unseen : system.Unseen waiter)
    (ending : Host.Ending) :
    Watched { system.withHost (system.service.host.reap waiter.pid) with
      seen := ⟨waiter, ending⟩ :: system.seen } := by
  have back : ∀ other, System.Unseen { system.withHost (system.service.host.reap waiter.pid) with
      seen := ⟨waiter, ending⟩ :: system.seen } other →
      system.Unseen other ∧ waiter ≠ other := by
    intro other still
    have old : system.Unseen other :=
      ⟨still.waits, fun sighting member => still.fresh sighting (List.mem_cons_of_mem _ member)⟩
    exact ⟨old, still.fresh _ List.mem_cons_self⟩
  constructor
  case waiting =>
    intro sighting member
    rcases List.mem_cons.mp member with rfl | member
    · exact unseen.waits
    · exact watched.waiting sighting member
  case once =>
    refine List.nodup_cons.mpr ⟨?_, watched.once⟩
    intro member
    obtain ⟨sighting, seen, same⟩ := List.mem_map.mp member
    exact unseen.fresh sighting seen same
  case known =>
    intro other still
    obtain ⟨old, differ⟩ := back other still
    obtain ⟨process, known⟩ := watched.known other old
    have elsewhere : other.pid ≠ waiter.pid := by
      intro same
      exact differ (watched.apart waiter other unseen old same.symm)
    exact ⟨process, (Table.get?_erase_ne _ elsewhere).trans known⟩
  case apart =>
    intro first second one two
    exact watched.apart first second (back first one).1 (back second two).1

theorem record_watched (watched : Watched system)
    (distinct : (system.service.waiters.map Waiter.ticket).Nodup) {sighting : Sighting}
    (member : sighting ∈ system.seen) {recorded : List Entry} {service : Service}
    (waiters : service.waiters = system.service.waiters.erase sighting.waiter)
    (host : service.host = system.service.host) :
    Watched ⟨service, system.seen.erase sighting, recorded⟩ := by
  have waits := watched.waiting sighting member
  have back : ∀ waiter, System.Unseen ⟨service, system.seen.erase sighting, recorded⟩ waiter →
      system.Unseen waiter := by
    intro waiter unseen
    have left : waiter ∈ system.service.waiters.erase sighting.waiter := waiters ▸ unseen.waits
    have differ := key_ne_of_mem_erase distinct waits left
    refine ⟨List.mem_of_mem_erase left, ?_⟩
    intro other seen same
    by_cases equal : other = sighting
    · subst equal
      exact differ (congrArg Waiter.ticket same.symm)
    · exact unseen.fresh other ((List.mem_erase_of_ne equal).mpr seen) same
  constructor
  case waiting =>
    intro other left
    have differ := key_ne_of_mem_erase watched.once member left
    change other.waiter ∈ service.waiters
    rw [waiters]
    exact (List.mem_erase_of_ne differ).mpr (watched.waiting other (List.mem_of_mem_erase left))
  case once => exact nodup_map_erase watched.once
  case known =>
    intro waiter unseen
    change ∃ process, service.host.processes.get? waiter.pid = some process
    rw [host]
    exact watched.known waiter (back waiter unseen)
  case apart =>
    intro first second one two
    exact watched.apart first second (back first one) (back second two)

end Watching

section Reaching

structure Sound (system : System) : Prop where
  booked : Booked system.service system.recorded
  watched : Watched system

variable {system after : System}

theorem initial_sound (host : Host) : Sound (.initial host) :=
  ⟨initial_booked host, initial_watched host⟩

/-- A change of the host that leaves all processes where they are. -/
theorem withHost_sound (sound : Sound system) {host : Host}
    (kept : system.service.host.Survives host) : Sound (system.withHost host) :=
  ⟨sound.booked.of_eq rfl rfl rfl rfl, sound.watched.of_survives rfl rfl kept⟩

theorem isDone_iff {service : Service} {task : Task} :
    service.isDone task = true ↔ task.ticket ∈ service.finished := by
  rw [isDone, List.contains_iff_mem]

theorem isDone_eq {service after : Service} (finished : after.finished = service.finished)
    (task : Task) : after.isDone task = service.isDone task :=
  congrArg (List.contains · task.ticket) finished

theorem isDone_eq_false_iff {service : Service} {task : Task} :
    service.isDone task = false ↔ task.ticket ∉ service.finished := by
  rw [Bool.eq_false_iff, ne_eq, isDone_iff]

/-- Whoever has seen an exit finds its task, and writes into nothing else. -/
theorem Sound.record_eq (sound : Sound system) {sighting : Sighting}
    (member : sighting ∈ system.seen) :
    ∃ task shutdowns, system.service.tasks.get? sighting.waiter.id = some task ∧
      task.waiter sighting.waiter.id = sighting.waiter ∧
      system.service.record sighting.waiter sighting.ending =
        { system.service with
          tasks := system.service.tasks.put sighting.waiter.id
            { task with
              exitStatus := exitStatus sighting.ending
              exitTime := some system.service.host.now }
          waiters := system.service.waiters.erase sighting.waiter
          finished := sighting.waiter.ticket :: system.service.finished
          shutdowns } := by
  have waits := sound.watched.waiting sighting member
  obtain ⟨_, task, found, same⟩ := sound.booked.owned sighting.waiter waits
  obtain ⟨shutdowns, result⟩ := record_of_found found sighting.ending
  exact ⟨task, shutdowns, found, same, result⟩

theorem effect_sound (sound : Sound system) {request : Request} {outcome : Outcome}
    (free : PidFree system.service request) (effect : Effect system.service request outcome) :
    Sound { system with service := outcome.2 } := by
  cases effect with
  | quiet refused kept => exact withHost_sound sound kept
  | created vacant kept born =>
      have booked := withHost_sound sound kept
      exact ⟨enter_booked booked.booked _ vacant, enter_watched sound.watched _ (free _ rfl) kept born⟩
  | started found idle kept =>
      have booked := (withHost_sound sound kept).booked
      exact ⟨start_booked booked found, sound.watched.of_survives rfl rfl kept⟩
  | deleted found done kept =>
      have booked := (withHost_sound sound kept).booked
      exact ⟨delete_booked booked found (isDone_iff.mp done),
        sound.watched.of_survives rfl rfl kept⟩
  | shutdown =>
      exact ⟨sound.booked.of_eq rfl rfl rfl rfl,
        sound.watched.of_survives rfl rfl (Host.survives_of_processes rfl)⟩

theorem step_sound (sound : Sound system) (step : Step system after) : Sound after := by
  obtain ⟨event, happens⟩ := step
  cases happens with
  | request interruption request free =>
      exact effect_sound sound free (handle_effect interruption request free)
  | exit pid ending => exact withHost_sound sound (system.service.host.finish_survives pid ending)
  | notice unseen known ended =>
      exact ⟨sound.booked.of_eq rfl rfl rfl rfl, notice_watched sound.watched unseen _⟩
  | record member =>
      rename_i sighting
      have waits := sound.watched.waiting sighting member
      obtain ⟨task, shutdowns, _, _, result⟩ := sound.record_eq member
      refine ⟨record_booked sound.booked waits sighting.ending, ?_⟩
      exact record_watched sound.watched sound.booked.distinct member (by rw [result])
        (by rw [result])
  | drift files peers now nextPid refusals =>
      exact withHost_sound sound (Host.survives_of_processes rfl)

theorem reachable_sound (reachable : Reachable system) : Sound system := by
  obtain ⟨host, run⟩ := reachable
  exact run.invariant (fun _ _ => step_sound) (initial_sound host)

end Reaching

section Attribution

namespace System

def waitersOf (system : System) (ticket : Ticket) : List Waiter :=
  system.service.waiters.filter fun waiter => waiter.ticket = ticket

def entriesOf (system : System) (ticket : Ticket) : List Entry :=
  system.recorded.filter fun entry => entry.waiter.ticket = ticket

def sightingsOf (system : System) (waiter : Waiter) : List Sighting :=
  system.seen.filter fun sighting => sighting.waiter = waiter

end System

/-- The process of a waiter has ended, and how far the news has come. -/
inductive Exited (system : System) (waiter : Waiter) (ending : Host.Ending) : Prop where
  | unnoticed {process : Host.Process} (unseen : system.Unseen waiter)
      (known : system.service.host.processes.get? waiter.pid = some process)
      (ended : process.phase = .ended ending)
  | noticed (seen : ⟨waiter, ending⟩ ∈ system.seen)
  | written {time : Timestamp} (entry : ⟨waiter, exitStatus ending, time⟩ ∈ system.recorded)

variable {system after : System}

theorem Exited.of_survives {waiter : Waiter} {ending : Host.Ending}
    (exited : Exited system waiter ending)
    (waiters : ∀ other ∈ system.service.waiters, other ∈ after.service.waiters)
    (seen : after.seen = system.seen) (recorded : after.recorded = system.recorded)
    (kept : system.service.host.Survives after.service.host) : Exited after waiter ending := by
  cases exited with
  | unnoticed unseen known ended =>
      obtain ⟨later, knownLater, keeps⟩ := kept _ _ known
      exact .unnoticed ⟨waiters _ unseen.waits, seen ▸ unseen.fresh⟩ knownLater (keeps _ ended)
  | noticed member => exact .noticed (seen ▸ member)
  | written entry => exact .written (recorded ▸ entry)

theorem effect_exited {waiter : Waiter} {ending : Host.Ending} {request : Request}
    {outcome : Outcome} (exited : Exited system waiter ending)
    (effect : Effect system.service request outcome) :
    Exited { system with service := outcome.2 } waiter ending := by
  cases effect with
  | quiet refused kept => exact exited.of_survives (fun _ waits => waits) rfl rfl kept
  | created vacant kept born =>
      exact exited.of_survives (fun _ waits => List.mem_cons_of_mem _ waits) rfl rfl kept
  | started found idle kept => exact exited.of_survives (fun _ waits => waits) rfl rfl kept
  | deleted found done kept => exact exited.of_survives (fun _ waits => waits) rfl rfl kept
  | shutdown =>
      exact exited.of_survives (fun _ waits => waits) rfl rfl (Host.survives_of_processes rfl)

/-- News of an exit only moves on, from the process to its waiter and from there to the books. -/
theorem step_exited {waiter : Waiter} {ending : Host.Ending} (sound : Sound system)
    (exited : Exited system waiter ending) (step : Step system after) :
    Exited after waiter ending := by
  obtain ⟨event, happens⟩ := step
  cases happens with
  | request interruption request free =>
      exact effect_exited exited (handle_effect interruption request free)
  | exit pid code =>
      exact exited.of_survives (fun _ waits => waits) rfl rfl
        (system.service.host.finish_survives pid code)
  | notice other known ended =>
      rename_i first process code
      cases exited with
      | unnoticed unseen knownMine endedMine =>
          by_cases same : first = waiter
          · subst same
            rw [known, Option.some.injEq] at knownMine
            subst knownMine
            rw [ended, Host.Phase.ended.injEq] at endedMine
            subst endedMine
            exact .noticed List.mem_cons_self
          · -- Two that have seen nothing wait for two processes, so ours is still known.
            have elsewhere : waiter.pid ≠ first.pid := by
              intro equal
              exact same (sound.watched.apart first waiter other unseen equal.symm)
            refine .unnoticed ⟨unseen.waits, ?_⟩
              ((Table.get?_erase_ne _ elsewhere).trans knownMine) endedMine
            intro sighting member
            rcases List.mem_cons.mp member with rfl | member
            · exact same
            · exact unseen.fresh sighting member
      | noticed member => exact .noticed (List.mem_cons_of_mem _ member)
      | written entry => exact .written entry
  | record member =>
      rename_i sighting
      cases exited with
      | unnoticed unseen known ended =>
          obtain ⟨task, shutdowns, _, _, result⟩ := sound.record_eq member
          have other : waiter ≠ sighting.waiter := (unseen.fresh sighting member).symm
          refine .unnoticed ⟨?_, ?_⟩ ?_ ended
          · rw [result]
            exact (List.mem_erase_of_ne other).mpr unseen.waits
          · exact fun later left => unseen.fresh later (List.mem_of_mem_erase left)
          · rw [result]
            exact known
      | noticed mine =>
          by_cases same : ⟨waiter, ending⟩ = sighting
          · subst same
            exact .written List.mem_cons_self
          · exact .noticed ((List.mem_erase_of_ne same).mpr mine)
      | written entry => exact .written (List.mem_cons_of_mem _ entry)
  | drift files peers now nextPid refusals =>
      exact exited.of_survives (fun _ waits => waits) rfl rfl (Host.survives_of_processes rfl)

theorem run_exited {waiter : Waiter} {ending : Host.Ending} (sound : Sound system)
    (run : Run system after) (exited : Exited system waiter ending) :
    Exited after waiter ending := by
  have kept : ∀ before after, Sound before ∧ Exited before waiter ending → Step before after →
      Sound after ∧ Exited after waiter ending := by
    intro before after holds step
    exact ⟨step_sound holds.1 step, step_exited holds.1 holds.2 step⟩
  exact (run.invariant kept ⟨sound, exited⟩).2

theorem Sound.task_done (sound : Sound system) {id : Bytes} {task : Task}
    (found : system.service.tasks.get? id = some task)
    (done : task.ticket ∈ system.service.finished) :
    system.waitersOf task.ticket = [] ∧ ∃ time, task.exitTime = some time ∧
      system.entriesOf task.ticket = [⟨task.waiter id, task.exitStatus, time⟩] := by
  constructor
  · apply filter_key_nil
    intro member
    obtain ⟨waiter, waits, same⟩ := List.mem_map.mp member
    exact (sound.booked.owned waiter waits).1 (same ▸ done)
  · obtain ⟨time, exited, entry⟩ := sound.booked.written id task found done
    have distinct := sound.booked.once
    rw [sound.booked.finished] at distinct
    exact ⟨time, exited, filter_key_singleton distinct entry⟩

theorem Sound.task_pending (sound : Sound system) {id : Bytes} {task : Task}
    (found : system.service.tasks.get? id = some task)
    (pending : task.ticket ∉ system.service.finished) :
    system.waitersOf task.ticket = [task.waiter id] ∧ system.entriesOf task.ticket = [] := by
  constructor
  · rcases sound.booked.awaited id task found with done | waits
    · exact absurd done pending
    · exact filter_key_singleton sound.booked.distinct waits
  · apply filter_key_nil
    rw [← sound.booked.finished]
    exact pending

/-- What a waiter waits for has not been seen, or was seen once. -/
theorem Sound.waiter_news (sound : Sound system) {waiter : Waiter}
    (waits : waiter ∈ system.service.waiters) :
    (system.Unseen waiter ∧ system.service.host.alive waiter.pid = true ∧
      ∀ other, system.Unseen other → other.pid = waiter.pid → other = waiter) ∨
    ∃ ending, system.sightingsOf waiter = [⟨waiter, ending⟩] := by
  by_cases seen : waiter ∈ system.seen.map Sighting.waiter
  · right
    obtain ⟨⟨_, ending⟩, member, rfl⟩ := List.mem_map.mp seen
    exact ⟨ending, filter_key_singleton sound.watched.once member⟩
  · left
    have unseen : system.Unseen waiter := by
      refine ⟨waits, fun sighting member same => seen ?_⟩
      rw [← same]
      exact List.mem_map_of_mem member
    obtain ⟨process, known⟩ := sound.watched.known waiter unseen
    refine ⟨unseen, ?_, fun other also same => sound.watched.apart other waiter also unseen same⟩
    rw [Host.alive, Table.contains, known]
    rfl

/-- Every exit is written down once and in its own task. A task is done and its exit is the one
in the books, or just one waiter is there for it; the table holds under the id of a waiter the
task that it was told of, so that writing finds that task and touches no other; and an exit
that has happened is never lost. -/
theorem exits_recorded_once_in_own_task (reachable : Reachable system) :
    (∀ id task, system.service.tasks.get? id = some task →
      (system.service.isDone task = true ∧ system.waitersOf task.ticket = [] ∧
        ∃ time, task.exitTime = some time ∧
          system.entriesOf task.ticket = [⟨task.waiter id, task.exitStatus, time⟩]) ∨
      (system.service.isDone task = false ∧ system.waitersOf task.ticket = [task.waiter id] ∧
        system.entriesOf task.ticket = [])) ∧
    (∀ waiter ∈ system.service.waiters, ∃ task,
      system.service.tasks.get? waiter.id = some task ∧ task.waiter waiter.id = waiter ∧
      system.service.isDone task = false ∧
      ((system.Unseen waiter ∧ system.service.host.alive waiter.pid = true ∧
          ∀ other, system.Unseen other → other.pid = waiter.pid → other = waiter) ∨
        ∃ ending, system.sightingsOf waiter = [⟨waiter, ending⟩])) ∧
    (∀ waiter ending, ⟨waiter, ending⟩ ∈ system.seen → ∃ task shutdowns,
      system.service.tasks.get? waiter.id = some task ∧ task.waiter waiter.id = waiter ∧
      system.service.record waiter ending =
        { system.service with
          tasks := system.service.tasks.put waiter.id
            { task with
              exitStatus := exitStatus ending, exitTime := some system.service.host.now }
          waiters := system.service.waiters.erase waiter
          finished := waiter.ticket :: system.service.finished
          shutdowns }) ∧
    (system.recorded.map fun entry => entry.waiter.ticket).Nodup ∧
    ∀ later waiter ending, Run system later →
      Exited system waiter ending → Exited later waiter ending := by
  have sound := reachable_sound reachable
  refine ⟨?_, ?_, ?_, ?_, fun later waiter ending => run_exited sound⟩
  · intro id task found
    by_cases done : task.ticket ∈ system.service.finished
    · exact .inl ⟨isDone_iff.mpr done, sound.task_done found done⟩
    · exact .inr ⟨isDone_eq_false_iff.mpr done, sound.task_pending found done⟩
  · intro waiter waits
    obtain ⟨unfinished, task, found, same⟩ := sound.booked.owned waiter waits
    refine ⟨task, found, same, isDone_eq_false_iff.mpr ?_, sound.waiter_news waits⟩
    rw [← same] at unfinished
    exact unfinished
  · exact fun waiter ending member => sound.record_eq member
  · rw [← sound.booked.finished]
    exact sound.booked.once

namespace Sample

/-! A task that is killed and deleted before its id is used again. -/

def host : Host where
  files :=
    let files := Files.ofWorkingDirectory (utf8 "/w")
    let files := files.place (utf8 "b/config.json") (.file
      (utf8 "\x7b\"root\":\x7b\"path\":\"/w\"\x7d,\"process\":\x7b\"args\":[\"p.b\"]\x7d\x7d"))
    files.place (utf8 "p.b") (.file (utf8 "+"))

def creation : Creation where
  id := utf8 "a"
  bundle := utf8 "b"

def sighting : Sighting where
  waiter := ⟨utf8 "a", 2, 0⟩
  ending := .signaled Host.killSignal

def asked (system : System) (request : Request) : System :=
  { system with service := (system.service.handle none request).2 }

def created : System :=
  asked (.initial host) (.create creation)

def killed : System :=
  asked created (.kill creation.id 9)

def noticed : System :=
  { killed.withHost (killed.service.host.reap sighting.waiter.pid) with seen := [sighting] }

def written : System where
  service := noticed.service.record sighting.waiter sighting.ending
  recorded := [sighting.entry noticed.service.host.now]

def recreated : System :=
  asked (asked written (.delete creation.id)) (.create creation)

def answer (system : System) (request : Request) : Event :=
  .answered request (system.service.handle none request).1

/-- The task is killed, and its waiter writes that down. -/
def killing : List Event :=
  [answer created (.kill creation.id 9), .noticed sighting,
    .recorded (sighting.entry noticed.service.host.now)]

/-- The task is deleted, and another one gets its id. -/
def renewing : List Event :=
  [answer written (.delete creation.id),
    answer (asked written (.delete creation.id)) (.create creation)]

theorem asked_happens {system : System} {request : Request}
    (free : PidFree system.service request) :
    Happens system (answer system request) (asked system request) :=
  .request system none request free

theorem creating_happens :
    Happens (.initial host) (answer (.initial host) (.create creation)) created := by
  have unused : (System.initial host).service.host.alive host.nextPid = false := by decide +kernel
  exact asked_happens fun _ _ => unused

theorem killing_history : History created killing written := by
  have kill : PidFree created.service (.kill creation.id 9) := nofun
  have waits : sighting.waiter ∈ killed.service.waiters := by decide +kernel
  have ended : (killed.service.host.processes.get? sighting.waiter.pid).map Host.Process.phase =
      some (.ended sighting.ending) := by decide +kernel
  obtain ⟨process, known, phase⟩ := Option.map_eq_some_iff.mp ended
  have notice : Happens killed (.noticed sighting) noticed :=
    .notice killed ⟨waits, nofun⟩ known phase
  have record := Happens.record noticed (List.mem_singleton_self sighting)
  have nothing : noticed.seen.erase sighting = [] := List.erase_cons_head sighting []
  rw [nothing] at record
  exact .cons (asked_happens kill) (.cons notice (.cons record (.nil _)))

theorem renewing_history : History written renewing recreated := by
  have delete : PidFree written.service (.delete creation.id) := nofun
  have unused : (asked written (.delete creation.id)).service.host.alive
      (asked written (.delete creation.id)).service.host.nextPid = false := by decide +kernel
  exact .cons (asked_happens delete) (.cons (asked_happens fun _ _ => unused) (.nil _))

theorem recreated_reachable : Reachable recreated :=
  ⟨host, .next creating_happens.step (killing_history.append renewing_history).run⟩

end Sample

theorem recreated_task_awaits_exit :
    Reachable Sample.recreated ∧
      Sample.recreated.waitersOf 1 = [⟨utf8 "a", 3, 1⟩] ∧ Sample.recreated.entriesOf 1 = [] := by
  have reachable := Sample.recreated_reachable
  have found : Sample.recreated.service.tasks.get? (utf8 "a") =
      some ⟨3, utf8 "b", {}, false, 1, 0, none, .nothing⟩ := by decide +kernel
  have pending : Sample.recreated.service.isDone
      ⟨3, utf8 "b", {}, false, 1, 0, none, .nothing⟩ = false := by decide +kernel
  rcases (exits_recorded_once_in_own_task reachable).1 _ _ found with ⟨done, _⟩ | ⟨_, awaited⟩
  · rw [pending] at done
    cases done
  · exact ⟨reachable, awaited⟩

end Attribution

end Service

end Brainfuck
