import Brainfuck.Path

/-!
Cleaned paths. What is left of a path that begins at the root is the names of a place, each of them
good for one step down, and the path is read back as these names. So one cleaned path lies below
another exactly if its text goes on with a slash.
-/

namespace Brainfuck

namespace Bytes

theorem splitOn_append (separator : UInt8) (front back : Bytes) :
    splitOn separator (front ++ separator :: back) =
      splitOn separator front ++ splitOn separator back := by
  induction front with
  | nil => simp [splitOn]
  | cons byte rest ih =>
      simp only [List.cons_append, splitOn, ih]
      split
      · rfl
      · cases pieces : splitOn separator rest with
        | nil => exact absurd pieces (splitOn_ne_nil separator rest)
        | cons piece pieces => rfl

theorem splitOn_of_not_mem {separator : UInt8} {text : Bytes} (whole : separator ∉ text) :
    splitOn separator text = [text] := by
  induction text with
  | nil => rfl
  | cons byte rest ih =>
      simp only [List.mem_cons, not_or] at whole
      rw [splitOn, if_neg (Ne.symm whole.1), ih whole.2]

theorem splitOn_joinWith {separator : UInt8} {pieces : List Bytes} (some : pieces ≠ [])
    (whole : ∀ piece ∈ pieces, separator ∉ piece) :
    splitOn separator (joinWith separator pieces) = pieces := by
  induction pieces with
  | nil => exact absurd rfl some
  | cons piece pieces ih =>
      have first := splitOn_of_not_mem (whole piece List.mem_cons_self)
      by_cases more : pieces = []
      · rw [more]
        exact first
      · rw [joinWith_cons more, splitOn_append, first, ih more]
        · rfl
        · intro other member
          exact whole other (List.mem_cons_of_mem piece member)

theorem joinWith_append {separator : UInt8} {front back : List Bytes} (some : front ≠ [])
    (more : back ≠ []) :
    joinWith separator (front ++ back) =
      joinWith separator front ++ separator :: joinWith separator back := by
  induction front with
  | nil => exact absurd rfl some
  | cons piece pieces ih =>
      by_cases last : pieces = []
      · rw [last]
        exact joinWith_cons more piece
      · have longer : pieces ++ back ≠ [] := List.append_ne_nil_of_left_ne_nil last back
        rw [List.cons_append, joinWith_cons longer, ih last, joinWith_cons last]
        simp

end Bytes

namespace Path

section Names

variable {path name : Bytes}

/-- Where the names of a cleaned path come from. -/
theorem mem_pushName {absolute : Bool} {kept : List Bytes} {other : Bytes}
    (member : other ∈ pushName absolute kept name) :
    other ∈ kept ∨
      other = name ∧ name ≠ [] ∧ name ≠ here ∧ (name = parent → absolute = false) := by
  unfold pushName at member
  split at member
  · exact .inl member
  · rename_i proper
    rw [not_or] at proper
    split at member
    · rename_i up
      cases kept with
      | nil =>
          cases absolute with
          | true => cases member
          | false =>
              have same := List.mem_singleton.mp member
              exact .inr ⟨same.trans up.symm, proper.1, proper.2, fun _ => rfl⟩
      | cons last before =>
          dsimp only at member
          split at member
          · rename_i again
            rcases List.mem_cons.mp member with same | member
            · exact .inl (same.trans again.symm ▸ List.mem_cons_self)
            · exact .inl member
          · exact .inl (List.mem_cons_of_mem last member)
    · rename_i down
      rcases List.mem_cons.mp member with same | member
      · exact .inr ⟨same, proper.1, proper.2, fun up => absurd up down⟩
      · exact .inl member

theorem mem_names (member : name ∈ names path) :
    name ∈ Bytes.splitOn slash path ∧ name ≠ [] ∧ name ≠ here ∧
      (name = parent → isAbsolute path = false) := by
  -- For any names kept so far, since the fold begins in the middle of a path in the induction.
  have pushed : ∀ (parts kept : List Bytes),
      name ∈ parts.foldl (pushName (isAbsolute path)) kept → name ∈ kept ∨
        name ∈ parts ∧ name ≠ [] ∧ name ≠ here ∧ (name = parent → isAbsolute path = false) := by
    intro parts
    induction parts with
    | nil => exact fun kept member => .inl member
    | cons part rest ih =>
        intro kept member
        rcases ih _ member with member | ⟨later, proper⟩
        · rcases mem_pushName member with earlier | ⟨rfl, proper⟩
          · exact .inl earlier
          · exact .inr ⟨List.mem_cons_self, proper⟩
        · exact .inr ⟨List.mem_cons_of_mem part later, proper⟩
  rcases pushed _ [] (List.mem_reverse.mp member) with nothing | found
  · cases nothing
  · exact found

theorem names_ne_nil (path : Bytes) : ∀ name ∈ names path, name ≠ [] :=
  fun _ member => (mem_names member).2.1

end Names

section Texts

theorem joinWith_ne_nil {separator : UInt8} {pieces : List Bytes} (some : pieces ≠ [])
    (filled : ∀ piece ∈ pieces, piece ≠ []) : Bytes.joinWith separator pieces ≠ [] := by
  cases pieces with
  | nil => exact absurd rfl some
  | cons first rest =>
      have front := filled first List.mem_cons_self
      cases rest with
      | nil => exact front
      | cons second more =>
          rw [Bytes.joinWith]
          · exact fun empty => front (List.append_eq_nil_iff.mp empty).1
          · nofun

/-- Cleaning never leaves nothing. -/
theorem clean_ne_nil (path : Bytes) : clean path ≠ [] := by
  unfold clean
  split
  · nofun
  · split
    · nofun
    · rename_i some
      exact joinWith_ne_nil some (names_ne_nil path)

theorem join_ne_nil {paths : List Bytes} {path : Bytes} (member : path ∈ paths)
    (filled : path ≠ []) : join paths ≠ [] := by
  have kept : path ∈ paths.filter (· ≠ []) := List.mem_filter.mpr ⟨member, by simpa using filled⟩
  unfold join
  split
  · rename_i empty
    rw [empty] at kept
    cases kept
  · exact clean_ne_nil _

end Texts

section Places

/-- The path of a place from the root. -/
def rooted (place : List Bytes) : Bytes :=
  slash :: Bytes.joinWith slash place

/-- Names that each lead one step down. -/
def Plain (place : List Bytes) : Prop :=
  ∀ name ∈ place, name ≠ [] ∧ name ≠ here ∧ name ≠ parent ∧ slash ∉ name

theorem Plain.split {name : Bytes} {rest : List Bytes} (plain : Plain (name :: rest)) :
    Plain [name] ∧ Plain rest := by
  constructor
  · intro other member
    exact plain other (List.mem_singleton.mp member ▸ List.mem_cons_self)
  · intro other member
    exact plain other (List.mem_cons_of_mem name member)

theorem isAbsolute_rooted (place : List Bytes) : isAbsolute (rooted place) = true := by
  simp [isAbsolute, rooted]

theorem clean_absolute {path : Bytes} (absolute : isAbsolute path = true) :
    clean path = rooted (names path) ∧ Plain (names path) := by
  constructor
  · rw [clean, if_pos absolute, rooted]
  · intro name member
    obtain ⟨piece, filled, moves, up⟩ := mem_names member
    refine ⟨filled, moves, ?_, Bytes.not_mem_of_mem_splitOn piece⟩
    intro same
    rw [up same] at absolute
    cases absolute

theorem splitOn_rooted {place : List Bytes} (plain : Plain place) (some : place ≠ []) :
    Bytes.splitOn slash (rooted place) = [] :: place := by
  have rest := Bytes.splitOn_joinWith some fun name member => (plain name member).2.2.2
  rw [rooted, Bytes.splitOn, if_pos rfl, rest]

/-- A path begins with another one and a slash exactly if its place lies below. -/
theorem rooted_below_iff {first second : List Bytes} (plain : Plain first) (other : Plain second)
    (some : first ≠ []) (more : second ≠ []) :
    rooted first ++ [slash] <+: rooted second ↔ ∃ lower, lower ≠ [] ∧ second = first ++ lower := by
  constructor
  · rintro ⟨rest, same⟩
    have pieces := congrArg (Bytes.splitOn slash) same
    rw [List.append_assoc, List.singleton_append, Bytes.splitOn_append,
      splitOn_rooted plain some, splitOn_rooted other more] at pieces
    exact ⟨_, Bytes.splitOn_ne_nil slash rest, (List.cons.inj pieces).2.symm⟩
  · rintro ⟨lower, filled, rfl⟩
    refine ⟨Bytes.joinWith slash lower, ?_⟩
    rw [rooted, rooted, Bytes.joinWith_append some filled]
    simp

theorem pushName_plain {name : Bytes} (plain : Plain [name]) (absolute : Bool)
    (kept : List Bytes) : pushName absolute kept name = name :: kept := by
  obtain ⟨filled, moves, down, _⟩ := plain name List.mem_cons_self
  have proper : ¬ (name = [] ∨ name = here) := not_or.mpr ⟨filled, moves⟩
  unfold pushName
  rw [if_neg proper, if_neg down]

/-- The last name of a path stays its last name if it leads down. -/
theorem names_concat {last : Bytes} (plain : Plain [last]) (front : Bytes) :
    ∃ before, names (front ++ slash :: last) = before ++ [last] := by
  have whole := (plain last List.mem_cons_self).2.2.2
  unfold names
  rw [Bytes.splitOn_append, Bytes.splitOn_of_not_mem whole, List.foldl_append, List.foldl_cons,
    List.foldl_nil, pushName_plain plain, List.reverse_cons]
  exact ⟨_, rfl⟩

theorem ne_nil_of_isAbsolute {front : Bytes} (absolute : isAbsolute front = true) : front ≠ [] := by
  rintro rfl
  cases absolute

theorem isAbsolute_append {front : Bytes} (absolute : isAbsolute front = true) (rest : Bytes) :
    isAbsolute (front ++ rest) = true := by
  cases front with
  | nil => cases absolute
  | cons byte more => exact absolute

/-- Whatever stands between a path from the root and a name that leads down, the name is the last
of the cleaned path. -/
theorem join_concat {front last : Bytes} (absolute : isAbsolute front = true)
    (plain : Plain [last]) (middle : Bytes) :
    ∃ before, join [front, middle, last] = rooted (before ++ [last]) ∧
      Plain (before ++ [last]) := by
  have some := ne_nil_of_isAbsolute absolute
  have filled := (plain last List.mem_cons_self).1
  obtain ⟨start, begins, joined⟩ : ∃ start, isAbsolute start = true ∧
      join [front, middle, last] = clean (start ++ slash :: last) := by
    by_cases empty : middle = []
    · refine ⟨front, absolute, ?_⟩
      simp [join, some, filled, empty, Bytes.joinWith]
    · refine ⟨front ++ slash :: middle, isAbsolute_append absolute _, ?_⟩
      simp [join, some, filled, empty, Bytes.joinWith]
  obtain ⟨before, told⟩ := names_concat plain start
  refine ⟨before, ?_⟩
  rw [joined, ← told]
  exact clean_absolute (isAbsolute_append begins _)

theorem upToSlash_append {last : Bytes} (whole : slash ∉ last) (front : Bytes) :
    upToSlash (front ++ slash :: last) = front ++ [slash] := by
  have passed : ∀ byte ∈ last.reverse, decide (byte ≠ slash) = true := by
    intro byte member
    rw [decide_eq_true_eq]
    rintro rfl
    exact whole (List.mem_reverse.mp member)
  rw [upToSlash, List.reverse_append, List.reverse_cons, List.append_assoc,
    List.dropWhile_append_of_pos passed]
  simp

theorem isAbsolute_directory {path : Bytes} (absolute : isAbsolute path = true) :
    isAbsolute (directory path) = true := by
  obtain ⟨rest, rfl⟩ : ∃ rest, path = slash :: rest := by
    cases path with
    | nil => cases absolute
    | cons byte rest =>
        simp only [isAbsolute, List.head?_cons, Option.some.injEq, decide_eq_true_eq] at absolute
        exact ⟨rest, absolute ▸ rfl⟩
  have begins : isAbsolute (upToSlash (slash :: rest)) = true := by
    rw [upToSlash, List.reverse_cons, List.dropWhile_append]
    split <;> simp [isAbsolute]
  rw [directory, (clean_absolute begins).1]
  exact isAbsolute_rooted _

/-- The directory of a place is told by all names but the last. -/
theorem directory_rooted {place : List Bytes} (whole : ∀ name ∈ place, slash ∉ name) :
    directory (rooted place) =
      clean (if place.dropLast = [] then [slash] else rooted place.dropLast ++ [slash]) := by
  unfold directory
  congr 1
  rcases List.eq_nil_or_concat place with rfl | ⟨front, last, rfl⟩
  · rfl
  · have final : slash ∉ last := whole last (by simp)
    rw [List.concat_eq_append, List.dropLast_concat]
    by_cases top : front = []
    · rw [if_pos top, top]
      exact upToSlash_append final []
    · have split : rooted (front ++ [last]) = rooted front ++ slash :: last := by
        rw [rooted, Bytes.joinWith_append top (List.cons_ne_nil last [])]
        rfl
      rw [if_neg top, split, upToSlash_append final]

theorem directory_of_siblings {first second : List Bytes} (whole : ∀ name ∈ first, slash ∉ name)
    (other : ∀ name ∈ second, slash ∉ name) (parents : first.dropLast = second.dropLast) :
    directory (rooted first) = directory (rooted second) := by
  rw [directory_rooted whole, directory_rooted other, parents]

end Places

end Path

end Brainfuck
