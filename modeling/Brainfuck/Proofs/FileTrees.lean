import Brainfuck.Files
import Brainfuck.Proofs.Paths

/-!
Trees of files under writing. A file that is put where no directory stands leaves every way through
the tree as it was, but for those that lead to it or through it. What was written at a path is read
there again, from whatever working directory if the path begins at the root.
-/

namespace Brainfuck

namespace Files

section Ways

variable {files : Files} {place next start slot : Location} {name content : Bytes}
  {names : List Bytes} {node : Node}

theorem node?_put_ne (apart : place ≠ slot) :
    (files.put slot node).node? place = files.node? place := by
  cases place with
  | nil => rfl
  | cons first rest => exact Table.get?_put_ne files.nodes node apart

theorem node?_put_self (below : slot ≠ []) : (files.put slot node).node? slot = some node := by
  cases slot with
  | nil => exact absurd rfl below
  | cons first rest => exact Table.get?_put_self files.nodes (first :: rest) node

/-- One name of a way. -/
def step (files : Files) (place : Location) (name : Bytes) : Except Cause Location :=
  match files.node? place with
  | none => .error .notFound
  | some (.file _) | some .fifo => .error .notDirectory
  | some .directory =>
      if name = [] ∨ name = Path.here then .ok place
      else if name = Path.parent then .ok place.dropLast
      else if longestName < name.length then .error .nameTooLong
      else if (files.node? (place ++ [name])).isNone then .error .notFound
      else .ok (place ++ [name])

theorem walk_cons (files : Files) (place : Location) (name : Bytes) (rest : List Bytes) :
    files.walk place (name :: rest) =
      (files.step place name).bind fun next => files.walk next rest := by
  rw [walk, step]
  cases files.node? place with
  | none => rfl
  | some node =>
      cases node with
      | file content => rfl
      | fifo => rfl
      | directory =>
          dsimp only
          split
          · rfl
          · split
            · rfl
            · split
              · rfl
              · split <;> rfl

theorem walk_cons_eq_ok_iff {rest : List Bytes} :
    files.walk start (name :: rest) = .ok place ↔
      ∃ next, files.step start name = .ok next ∧ files.walk next rest = .ok place := by
  rw [walk_cons]
  cases files.step start name with
  | error cause => simp [Except.bind]
  | ok next => simp [Except.bind]

theorem walk_append (files : Files) (start : Location) (front back : List Bytes) :
    files.walk start (front ++ back) =
      (files.walk start front).bind fun middle => files.walk middle back := by
  induction front generalizing start with
  | nil => rfl
  | cons name rest ih =>
      rw [List.cons_append, walk_cons, walk_cons]
      cases files.step start name with
      | error cause => rfl
      | ok next => exact ih next

/-- Only directories lead anywhere. -/
theorem step_directory (stepped : files.step place name = .ok next) :
    files.node? place = some .directory := by
  unfold step at stepped
  split at stepped
  · cases stepped
  · cases stepped
  · cases stepped
  · assumption

theorem step_of_directory (stands : files.node? place = some .directory) :
    files.step place name =
      if name = [] ∨ name = Path.here then .ok place
      else if name = Path.parent then .ok place.dropLast
      else if longestName < name.length then .error .nameTooLong
      else if (files.node? (place ++ [name])).isNone then .error .notFound
      else .ok (place ++ [name]) := by
  rw [step, stands]

theorem step_plain (plain : Path.Plain [name]) (stepped : files.step place name = .ok next) :
    next = place ++ [name] := by
  obtain ⟨filled, moves, down, _⟩ := plain name List.mem_cons_self
  rw [step_of_directory (step_directory stepped), if_neg (not_or.mpr ⟨filled, moves⟩),
    if_neg down] at stepped
  split at stepped
  · cases stepped
  · split at stepped
    · cases stepped
    · cases stepped
      rfl

theorem walk_plain (plain : Path.Plain names) (walked : files.walk start names = .ok place) :
    place = start ++ names := by
  induction names generalizing start with
  | nil =>
      cases walked
      exact (List.append_nil _).symm
  | cons name rest ih =>
      obtain ⟨next, stepped, onward⟩ := walk_cons_eq_ok_iff.mp walked
      obtain ⟨first, later⟩ := plain.split
      rw [ih later onward, step_plain first stepped, List.append_assoc, List.singleton_append]

/-- A step in one tree is a step in another one that has both of its ends. -/
theorem step_transfer {other : Files} (stepped : files.step place name = .ok next)
    (stands : other.node? place = some .directory)
    (there : (files.node? next).isSome → (other.node? next).isSome) :
    other.step place name = .ok next := by
  rw [step_of_directory (step_directory stepped)] at stepped
  rw [step_of_directory stands]
  by_cases stay : name = [] ∨ name = Path.here
  · rwa [if_pos stay] at stepped ⊢
  rw [if_neg stay] at stepped ⊢
  by_cases up : name = Path.parent
  · rwa [if_pos up] at stepped ⊢
  rw [if_neg up] at stepped ⊢
  by_cases long : longestName < name.length
  · rw [if_pos long] at stepped
    cases stepped
  rw [if_neg long] at stepped ⊢
  split at stepped
  · cases stepped
  · rename_i present
    cases stepped
    rw [Bool.not_eq_true, Option.isNone_eq_false_iff] at present
    rw [if_neg (by rw [Bool.not_eq_true, Option.isNone_eq_false_iff]; exact there present)]

/-- A way is not cut by a file that is put where no directory stood. -/
theorem step_put (stepped : files.step place name = .ok next)
    (free : files.node? slot ≠ some .directory) :
    (files.put slot (.file content)).step place name = .ok next := by
  have stands := step_directory stepped
  have apart : place ≠ slot := fun same => free (same ▸ stands)
  apply step_transfer stepped ((node?_put_ne apart).trans stands)
  intro present
  by_cases here : next = slot
  · by_cases root : slot = []
    · rw [here, root]
      rfl
    · rw [here, node?_put_self root]
      rfl
  · rwa [node?_put_ne here]

theorem walk_put (walked : files.walk start names = .ok place)
    (free : files.node? slot ≠ some .directory) :
    (files.put slot (.file content)).walk start names = .ok place := by
  induction names generalizing start with
  | nil => exact walked
  | cons name rest ih =>
      obtain ⟨next, stepped, onward⟩ := walk_cons_eq_ok_iff.mp walked
      exact walk_cons_eq_ok_iff.mpr ⟨next, step_put stepped free, ih onward⟩

/-- A way that does not come by a place does not depend on what stands there. -/
theorem walk_put_apart (plain : Path.Plain names)
    (apart : ∀ front, front <+: names → start ++ front ≠ slot) :
    (files.put slot node).walk start names = files.walk start names := by
  induction names generalizing start with
  | nil => rfl
  | cons name rest ih =>
      have here : start ≠ slot := by
        have first := apart [] List.nil_prefix
        rwa [List.append_nil] at first
      have there : start ++ [name] ≠ slot := apart [name] ⟨rest, rfl⟩
      have same : (files.put slot node).step start name = files.step start name := by
        rw [step, step, node?_put_ne here, node?_put_ne there]
      rw [walk_cons, walk_cons, same]
      cases stepped : files.step start name with
      | error cause => rfl
      | ok next =>
          obtain ⟨first, later⟩ := plain.split
          rw [step_plain first stepped]
          apply ih later
          intro front begins
          rw [List.append_assoc]
          exact apart ([name] ++ front) (List.prefix_cons_inj name |>.mpr begins)

end Ways

section Writing

variable {files after : Files} {slot place start : Location} {content : Bytes} {node : Node}

/-- What is not a file stood there before a file was put somewhere. -/
theorem node?_of_put_file (there : (files.put slot (.file content)).node? place = some node)
    (other : ∀ content, node ≠ .file content) : files.node? place = some node := by
  by_cases same : place = slot
  · by_cases root : slot = []
    · subst same root
      exact there
    · rw [same, node?_put_self root] at there
      exact absurd (Option.some.inj there).symm (other content)
  · rwa [node?_put_ne same] at there

theorem start_of_walk {names : List Bytes} (walked : files.walk start names = .ok place)
    (there : files.node? place = some node) : (files.node? start).isSome := by
  cases names with
  | nil =>
      cases walked
      rw [there]
      rfl
  | cons name rest =>
      obtain ⟨next, stepped, _⟩ := walk_cons_eq_ok_iff.mp walked
      rw [step_directory stepped]
      rfl

/-- Files lead nowhere, so the way to anything else was there before a file was put somewhere. -/
theorem walk_of_put_file {names : List Bytes}
    (walked : (files.put slot (.file content)).walk start names = .ok place)
    (there : (files.put slot (.file content)).node? place = some node)
    (other : ∀ content, node ≠ .file content) : files.walk start names = .ok place := by
  induction names generalizing start with
  | nil => exact walked
  | cons name rest ih =>
      obtain ⟨next, stepped, onward⟩ := walk_cons_eq_ok_iff.mp walked
      -- The next place is known to be there because the way leads on from it.
      have present := start_of_walk (ih onward) (node?_of_put_file there other)
      have stands := node?_of_put_file (step_directory stepped) nofun
      have before := step_transfer stepped stands fun _ => present
      exact walk_cons_eq_ok_iff.mpr ⟨next, before, ih onward⟩

theorem find_eq_ok_iff {path : Bytes} :
    files.find path = .ok (place, node) ↔
      wordingFault? path = none ∧
      files.walk (files.origin path) (Bytes.splitOn Path.slash path) = .ok place ∧
      files.node? place = some node := by
  unfold find
  cases wordingFault? path with
  | some cause => simp [bind, Except.bind, throw, throwThe, MonadExceptOf.throw]
  | none =>
      cases files.walk (files.origin path) (Bytes.splitOn Path.slash path) with
      | error cause => simp [bind, Except.bind]
      | ok last =>
          by_cases same : last = place
          · subst same
            cases stands : files.node? last with
            | none => simp [bind, Except.bind, throw, throwThe, MonadExceptOf.throw, stands]
            | some found => simp [bind, Except.bind, pure, Except.pure, stands]
          · cases stands : files.node? last with
            | none => simp [bind, Except.bind, throw, throwThe, MonadExceptOf.throw, stands, same]
            | some found => simp [bind, Except.bind, pure, Except.pure, stands, same]

/-- Writing a file makes no path lead to a fifo. -/
theorem find_of_write {target path : Bytes} (written : files.write target content = .ok after)
    (found : after.find path = .ok (place, node)) (other : ∀ content, node ≠ .file content) :
    files.find path = .ok (place, node) := by
  unfold write at written
  split at written
  · cases written
  · cases written
    obtain ⟨worded, walked, there⟩ := find_eq_ok_iff.mp found
    exact find_eq_ok_iff.mpr
      ⟨worded, walk_of_put_file walked there other, node?_of_put_file there other⟩

end Writing

section Slots

variable {files : Files} {place parent spot : Location} {path name content : Bytes} {node : Node}

/-- What a path at which a file can be written meets. -/
structure Slot (files : Files) (path : Bytes) (parent : Location) (name : Bytes) : Prop where
  worded : wordingFault? path = none
  last : (Bytes.splitOn Path.slash path).getLast? = some name
  walked : files.walk (files.origin path) (Bytes.splitOn Path.slash path).dropLast = .ok parent
  directory : files.node? parent = some .directory
  proper : ¬ (name = [] ∨ name = Path.here ∨ name = Path.parent)
  short : ¬ longestName < name.length
  free : files.node? (parent ++ [name]) ≠ some .directory

theorem not_of_guard {cause : Cause} {condition : Prop} [Decidable condition]
    {rest : Except Cause Location}
    (passed : (if condition then .error cause else rest) = .ok place) :
    ¬ condition ∧ rest = .ok place := by
  split at passed
  · cases passed
  · exact ⟨‹_›, passed⟩

theorem slot_eq_ok_iff :
    files.slot path = .ok place ↔
      ∃ parent name, Slot files path parent name ∧ place = parent ++ [name] := by
  obtain ⟨name, last⟩ : ∃ name, (Bytes.splitOn Path.slash path).getLast? = some name :=
    ⟨_, List.getLast?_eq_some_getLast (Bytes.splitOn_ne_nil Path.slash path)⟩
  constructor
  · intro found
    simp only [slot, bind, Except.bind, throw, throwThe, MonadExceptOf.throw, pure, Except.pure,
      last, Option.getD_some] at found
    cases worded : wordingFault? path with
    | some cause =>
        rw [worded] at found
        cases found
    | none =>
        rw [worded] at found
        dsimp only at found
        split at found
        · cases found
        · rename_i parent walked
          obtain ⟨directory, found⟩ := not_of_guard found
          obtain ⟨proper, found⟩ := not_of_guard found
          obtain ⟨short, found⟩ := not_of_guard found
          obtain ⟨free, found⟩ := not_of_guard found
          cases found
          exact ⟨parent, name,
            ⟨worded, last, walked, Decidable.not_not.mp directory, proper, short, free⟩, rfl⟩
  · rintro ⟨parent, name, meets, rfl⟩
    simp [slot, bind, Except.bind, pure, Except.pure, meets.worded, meets.last, meets.walked,
      meets.directory, meets.proper, meets.short, meets.free]

theorem Slot.put (meets : Slot files path parent name) (free : files.node? spot ≠ some .directory)
    (content : Bytes) : Slot (files.put spot (.file content)) path parent name where
  worded := meets.worded
  last := meets.last
  walked := walk_put meets.walked free
  directory := by
    rw [node?_put_ne, meets.directory]
    rintro rfl
    exact free meets.directory
  proper := meets.proper
  short := meets.short
  free := fun stands => meets.free (node?_of_put_file stands nofun)

/-- A file that is put where no directory stood takes no other file its place. -/
theorem slot_put (found : files.slot path = .ok place)
    (free : files.node? spot ≠ some .directory) (content : Bytes) :
    (files.put spot (.file content)).slot path = .ok place := by
  obtain ⟨parent, name, meets, split⟩ := slot_eq_ok_iff.mp found
  exact slot_eq_ok_iff.mpr ⟨parent, name, meets.put free content, split⟩

theorem slot_free (found : files.slot path = .ok place) :
    place ≠ [] ∧ files.node? place ≠ some .directory := by
  obtain ⟨parent, name, meets, rfl⟩ := slot_eq_ok_iff.mp found
  exact ⟨List.append_ne_nil_of_right_ne_nil parent nofun, meets.free⟩

/-- The last name of such a path leads on if something stands there. -/
theorem Slot.step_eq (meets : Slot files path parent name) :
    files.step parent name =
      if (files.node? (parent ++ [name])).isNone then .error .notFound
      else .ok (parent ++ [name]) := by
  have ⟨filled, moves, down⟩ : name ≠ [] ∧ name ≠ Path.here ∧ name ≠ Path.parent := by
    simpa only [not_or] using meets.proper
  rw [step_of_directory meets.directory, if_neg (not_or.mpr ⟨filled, moves⟩), if_neg down,
    if_neg meets.short]

theorem find_of_slot (found : files.slot path = .ok place)
    (stands : files.node? place = some node) :
    files.find path = .ok (place, node) := by
  obtain ⟨parent, name, meets, rfl⟩ := slot_eq_ok_iff.mp found
  refine find_eq_ok_iff.mpr ⟨meets.worded, ?_, stands⟩
  obtain ⟨front, split⟩ := List.getLast?_eq_some_iff.mp meets.last
  have walked := meets.walked
  rw [split, List.dropLast_concat] at walked
  rw [split, walk_append, walked]
  exact walk_cons_eq_ok_iff.mpr ⟨_, by rw [meets.step_eq, stands]; rfl, rfl⟩

/-- What was written at a path is read there. -/
theorem read_of_put (found : files.slot path = .ok place) (content : Bytes) :
    (files.put place (.file content)).read path = .ok content := by
  obtain ⟨below, free⟩ := slot_free found
  rw [read, find_of_slot (slot_put found free content) (node?_put_self below)]

end Slots

section Rooted

variable {files : Files} {place spot : Location} {path : Bytes} {names : List Bytes} {node : Node}

/-- The same tree, seen from another working directory. -/
def inDirectory (files : Files) (place : Location) : Files :=
  { files with workingDirectory := place }

theorem walk_inDirectory (files : Files) (other start : Location) (names : List Bytes) :
    (files.inDirectory other).walk start names = files.walk start names := by
  induction names generalizing start with
  | nil => rfl
  | cons name rest ih =>
      have same : (files.inDirectory other).step start name = files.step start name := by
        cases start <;> rfl
      rw [walk_cons, walk_cons, same]
      cases files.step start name with
      | error cause => rfl
      | ok next => exact ih next

theorem node?_inDirectory (files : Files) (other place : Location) :
    (files.inDirectory other).node? place = files.node? place := by
  cases place <;> rfl

theorem origin_inDirectory (absolute : Path.isAbsolute path = true) (files : Files)
    (other : Location) : (files.inDirectory other).origin path = files.origin path := by
  rw [origin, origin, if_pos absolute, if_pos absolute]

/-- A path from the root leads to the same place from everywhere. -/
theorem find_inDirectory (absolute : Path.isAbsolute path = true) (files : Files)
    (other : Location) : (files.inDirectory other).find path = files.find path := by
  simp only [find, origin_inDirectory absolute, walk_inDirectory, node?_inDirectory]

theorem read_inDirectory (absolute : Path.isAbsolute path = true) (files : Files)
    (other : Location) : (files.inDirectory other).read path = files.read path := by
  rw [read, read, find_inDirectory absolute]

theorem walk_rooted (plain : Path.Plain names) (some : names ≠ []) :
    files.walk (files.origin (Path.rooted names)) (Bytes.splitOn Path.slash (Path.rooted names)) =
      files.walk [] names := by
  rw [origin, if_pos (Path.isAbsolute_rooted names), Path.splitOn_rooted plain some]
  rfl

theorem slot_rooted (plain : Path.Plain names) (some : names ≠ [])
    (found : files.slot (Path.rooted names) = .ok place) : place = names := by
  -- The way to a slot is a way in the tree in which the slot is filled.
  obtain ⟨below, free⟩ := slot_free found
  have there := find_of_slot (slot_put found free []) (node?_put_self below)
  obtain ⟨-, walked, -⟩ := find_eq_ok_iff.mp there
  rw [walk_rooted plain some] at walked
  exact walk_plain plain walked

theorem read_put_apart (plain : Path.Plain names) (some : names ≠ []) (apart : ¬ spot <+: names) :
    (files.put spot node).read (Path.rooted names) = files.read (Path.rooted names) := by
  have walked : (files.put spot node).walk [] names = files.walk [] names := by
    apply walk_put_apart plain
    rintro front begins rfl
    exact apart begins
  have found : (files.put spot node).find (Path.rooted names) = files.find (Path.rooted names) := by
    unfold find
    rw [walk_rooted plain some, walk_rooted plain some, walked]
    cases reached : files.walk [] names with
    | error cause => rfl
    | ok place =>
        have other : place ≠ spot := by
          rintro rfl
          exact apart (walk_plain plain reached ▸ List.prefix_rfl)
        simp only [bind, Except.bind, node?_put_ne other]
  rw [read, read, found]

theorem find_of_blocked {cause : Cause}
    (blocked : files.walk (files.origin path) (Bytes.splitOn Path.slash path) = .error cause) :
    files.find path = .error ((wordingFault? path).getD cause) := by
  unfold find
  cases wordingFault? path with
  | some other => rfl
  | none => simp [blocked, bind, Except.bind]

/-- Nothing is read below a place for a file: there is no directory, or there is nothing. -/
theorem read_below {upper lower : List Bytes} (plain : Path.Plain (upper ++ lower))
    (more : lower ≠ []) (found : files.slot (Path.rooted upper) = .ok upper) :
    files.read (Path.rooted (upper ++ lower)) =
      .error ⟨"open", Path.rooted (upper ++ lower),
        (wordingFault? (Path.rooted (upper ++ lower))).getD
          (if (files.node? upper).isNone then .notFound else .notDirectory)⟩ := by
  obtain ⟨filled, free⟩ := slot_free found
  obtain ⟨parent, name, meets, split⟩ := slot_eq_ok_iff.mp found
  obtain ⟨first, rest, rfl⟩ := List.exists_cons_of_ne_nil more
  have above : Path.Plain upper := fun other member => plain other (List.mem_append_left _ member)
  have walked := meets.walked
  rw [origin, if_pos (Path.isAbsolute_rooted upper), Path.splitOn_rooted above filled,
    List.dropLast_cons_of_ne_nil filled, split, List.dropLast_concat] at walked
  change files.walk [] parent = .ok parent at walked
  have onward : files.walk [] (upper ++ first :: rest) =
      .error (if (files.node? upper).isNone then .notFound else .notDirectory) := by
    rw [split, List.append_assoc, walk_append, walked]
    change files.walk parent (name :: first :: rest) = _
    rw [walk_cons, meets.step_eq, ← split]
    cases stands : files.node? upper with
    | none => rfl
    | some node =>
        change files.walk upper (first :: rest) = _
        rw [walk_cons, step, stands]
        cases node with
        | file | fifo => rfl
        | directory => exact absurd stands free
  rw [read, find_of_blocked]
  rw [walk_rooted plain (List.append_ne_nil_of_left_ne_nil filled _), onward]

end Rooted

end Files

end Brainfuck
