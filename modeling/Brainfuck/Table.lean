/-!
Tables: values under keys, each key at most once as far as look-ups can tell.
-/

namespace Brainfuck

abbrev Table (Key Value : Type) := List (Key × Value)

namespace Table

variable {Key Value : Type} [DecidableEq Key]

def get? (table : Table Key Value) (key : Key) : Option Value :=
  (table.find? (·.1 = key)).map (·.2)

def contains (table : Table Key Value) (key : Key) : Bool :=
  (table.get? key).isSome

def erase (table : Table Key Value) (key : Key) : Table Key Value :=
  table.filter (·.1 ≠ key)

def put (table : Table Key Value) (key : Key) (value : Value) : Table Key Value :=
  (key, value) :: table.erase key

def modify (table : Table Key Value) (key : Key) (change : Value → Value) : Table Key Value :=
  match table.get? key with
  | none => table
  | some value => table.put key (change value)

def keys (table : Table Key Value) : List Key :=
  table.map (·.1)

theorem get?_erase_self (table : Table Key Value) (key : Key) :
    (table.erase key).get? key = none := by
  simp [get?, erase]

theorem get?_erase_ne (table : Table Key Value) {key other : Key} (differ : other ≠ key) :
    (table.erase key).get? other = table.get? other := by
  induction table with
  | nil => rfl
  | cons entry rest ih =>
      by_cases same : entry.1 = key
      · have apart : entry.1 ≠ other := fun equal => differ (equal.symm.trans same)
        simp_all [get?, erase]
      · by_cases hit : entry.1 = other
        · simp_all [get?, erase]
        · simp_all [get?, erase]

theorem get?_put_self (table : Table Key Value) (key : Key) (value : Value) :
    (table.put key value).get? key = some value := by
  simp [get?, put]

theorem get?_put_ne (table : Table Key Value) {key other : Key} (value : Value)
    (differ : other ≠ key) : (table.put key value).get? other = table.get? other := by
  have apart : key ≠ other := fun equal => differ equal.symm
  rw [← get?_erase_ne table differ]
  simp [get?, put, apart]

theorem get?_erase_eq_some_iff {table : Table Key Value} {key other : Key} {value : Value} :
    (table.erase key).get? other = some value ↔ other ≠ key ∧ table.get? other = some value := by
  by_cases same : other = key
  · subst same
    simp [get?_erase_self]
  · simp [get?_erase_ne table same, same]

theorem get?_put_eq_some_iff {table : Table Key Value} {key other : Key} {value found : Value} :
    (table.put key value).get? other = some found ↔
      other = key ∧ value = found ∨ other ≠ key ∧ table.get? other = some found := by
  by_cases same : other = key
  · subst same
    simp [get?_put_self]
  · simp [get?_put_ne table value same, same]

theorem get?_modify_self (table : Table Key Value) (key : Key) (change : Value → Value) :
    (table.modify key change).get? key = (table.get? key).map change := by
  unfold modify
  cases found : table.get? key with
  | none => exact found
  | some value => exact get?_put_self table key (change value)

theorem get?_modify_ne (table : Table Key Value) {key other : Key} (change : Value → Value)
    (differ : other ≠ key) : (table.modify key change).get? other = table.get? other := by
  unfold modify
  cases table.get? key with
  | none => rfl
  | some value => exact get?_put_ne table (change value) differ

theorem mem_of_get? {table : Table Key Value} {key : Key} {value : Value}
    (found : table.get? key = some value) : (key, value) ∈ table := by
  obtain ⟨entry, hit, rfl⟩ := Option.map_eq_some_iff.mp found
  have same : entry.1 = key := by simpa using List.find?_some hit
  subst same
  exact List.mem_of_find?_eq_some hit

/-- With distinct keys every entry is the one that is found under its key. -/
theorem get?_of_mem {table : Table Key Value} {key : Key} {value : Value}
    (distinct : table.keys.Nodup) (member : (key, value) ∈ table) :
    table.get? key = some value := by
  induction table with
  | nil => cases member
  | cons entry rest ih =>
      obtain ⟨fresh, others⟩ := List.nodup_cons.mp distinct
      rcases List.mem_cons.mp member with rfl | member
      · simp [get?]
      · have apart : entry.1 ≠ key := by
          intro same
          subst same
          exact fresh (List.mem_map.mpr ⟨_, member, rfl⟩)
        simpa [get?, apart] using ih others member

theorem nodup_keys_erase {table : Table Key Value} (distinct : table.keys.Nodup) (key : Key) :
    (table.erase key).keys.Nodup :=
  distinct.sublist (List.filter_sublist.map _)

theorem nodup_keys_put {table : Table Key Value} (distinct : table.keys.Nodup) (key : Key)
    (value : Value) : (table.put key value).keys.Nodup := by
  refine List.nodup_cons.mpr ⟨?_, nodup_keys_erase distinct key⟩
  intro member
  obtain ⟨entry, left, same⟩ := List.mem_map.mp member
  have kept := (List.mem_filter.mp left).2
  simp [same] at kept

end Table

end Brainfuck
