import Brainfuck.Proofs.Lexing
import Brainfuck.Proofs.Structure
import Mathlib.Data.List.Induction
import Mathlib.Order.Bounds.Basic

/-!
The bracket language. Validation is one scan with a stack of positions. Here it is compared with
two things that know of no stack: the grammar of balanced texts, and the counts of brackets in
parts of a text. The positions on the stack are those of the brackets behind which the text never
has as many `]` as `[`.
-/

namespace Brainfuck

namespace Command

theorem ofByte_eq_loopStart_iff {byte : UInt8} : ofByte byte = .loopStart ↔ byte = 0x5B :=
  ofByte_eq_iff (by decide)

theorem ofByte_eq_loopEnd_iff {byte : UInt8} : ofByte byte = .loopEnd ↔ byte = 0x5D :=
  ofByte_eq_iff (by decide)

end Command

namespace Brackets

/-- The texts in which each bracket has a partner. -/
inductive Balanced : Bytes → Prop where
  | empty : Balanced []
  | other {byte : UInt8} {rest : Bytes} (start : byte ≠ 0x5B) (stop : byte ≠ 0x5D)
      (tail : Balanced rest) : Balanced (byte :: rest)
  | loop {body rest : Bytes} (inner : Balanced body) (tail : Balanced rest) :
      Balanced (0x5B :: (body ++ 0x5D :: rest))

theorem ofByte_other {byte : UInt8} (start : byte ≠ 0x5B) (stop : byte ≠ 0x5D) :
    Command.ofByte byte ≠ .loopStart ∧ Command.ofByte byte ≠ .loopEnd := by
  rw [ne_eq, Command.ofByte_eq_loopStart_iff, ne_eq, Command.ofByte_eq_loopEnd_iff]
  exact ⟨start, stop⟩

section Grammar

/-- A balanced part of a source leaves the open brackets as they were. -/
theorem Balanced.openedFrom {text : Bytes} (balanced : Balanced text) (position : Nat)
    (opened : List Nat) : openedFrom position opened (commands text) = some opened := by
  induction balanced generalizing position opened with
  | empty => rfl
  | @other byte rest start stop _ ih =>
      have passed : push? position opened (Command.ofByte byte) = some opened :=
        push?_other (ofByte_other start stop).1 (ofByte_other start stop).2
      simp only [commands, List.map_cons, Brackets.openedFrom, passed, Option.bind_some]
      exact ih (position + 1) opened
  | @loop body rest _ _ inner tail =>
      have start : Command.ofByte 0x5B = .loopStart := rfl
      have stop : Command.ofByte 0x5D = .loopEnd := rfl
      simp only [commands, List.map_cons, List.map_append, start, stop, Brackets.openedFrom,
        push?, Option.bind_some, openedFrom_append]
      have body := inner (position + 1) (position :: opened)
      simp only [commands] at body
      simp only [body, Option.bind_some, List.tail?_cons]
      exact tail _ opened

theorem balanced_of_commands {code : Code} {source : Bytes}
    (same : commands source = code.commands) : Balanced source := by
  induction code generalizing source with
  | done =>
      have nothing : source = [] := by simpa [commands, Code.commands] using same
      rw [nothing]
      exact .empty
  | simple action rest ih =>
      simp only [commands, Code.commands, List.map_eq_cons_iff] at same
      obtain ⟨byte, tail, rfl, first, after⟩ := same
      refine .other ?_ ?_ (ih after)
      · rintro rfl
        cases action <;> cases first
      · rintro rfl
        cases action <;> cases first
  | loop body rest inner ih =>
      simp only [commands, Code.commands, List.map_eq_cons_iff, List.map_eq_append_iff] at same
      obtain ⟨byte, tail, rfl, first, within, _, rfl, inside, last, after, rfl, final, behind⟩ := same
      rw [Command.ofByte_eq_loopStart_iff] at first
      rw [Command.ofByte_eq_loopEnd_iff] at final
      subst first final
      exact .loop (inner inside) (ih behind)

theorem validate_eq_none_iff_balanced {source : Bytes} :
    validate source = none ↔ Balanced source := by
  constructor
  · intro accepted
    obtain ⟨code, parsed⟩ := Code.validate_eq_none_iff.mp accepted
    exact balanced_of_commands (Code.parse?_commands parsed).symm
  · intro balanced
    exact scan_of_opened (balanced.openedFrom 0 [])

end Grammar

section Counts

/-- How many more `[` than `]` there are in a text. -/
def surplus (text : Bytes) : Int :=
  text.count 0x5B - text.count 0x5D

@[simp] theorem surplus_nil : surplus [] = 0 := rfl

@[simp] theorem surplus_append (first second : Bytes) :
    surplus (first ++ second) = surplus first + surplus second := by
  simp only [surplus, List.count_append]
  omega

theorem surplus_cons (byte : UInt8) (rest : Bytes) :
    surplus (byte :: rest) = surplus [byte] + surplus rest :=
  surplus_append [byte] rest

/-- What one byte does to the stack, with its share of the surplus. -/
theorem push?_cases {position : Nat} {opened later : List Nat} {byte : UInt8}
    (pushed : push? position opened (Command.ofByte byte) = some later) :
    (byte = 0x5B ∧ surplus [byte] = 1 ∧ later = position :: opened) ∨
      (byte ≠ 0x5B ∧ surplus [byte] = -1 ∧ ∃ innermost, opened = innermost :: later) ∨
      (byte ≠ 0x5B ∧ surplus [byte] = 0 ∧ later = opened) := by
  by_cases start : byte = 0x5B
  · subst start
    cases pushed
    exact .inl ⟨rfl, rfl, rfl⟩
  by_cases stop : byte = 0x5D
  · subst stop
    cases opened with
    | nil => cases pushed
    | cons innermost outer =>
        cases pushed
        exact .inr (.inl ⟨start, rfl, innermost, rfl⟩)
  · have other := ofByte_other start stop
    rw [push?_other other.1 other.2] at pushed
    cases pushed
    exact .inr (.inr ⟨start, by simp [surplus, start, stop], rfl⟩)

/-- The stack is as deep as the surplus of what was scanned. -/
theorem openedFrom_length {text : Bytes} {position : Nat} {before opened : List Nat}
    (scanned : openedFrom position before (commands text) = some opened) :
    (opened.length : Int) = before.length + surplus text := by
  induction text generalizing position before with
  | nil =>
      cases scanned
      simp
  | cons byte rest ih =>
      simp only [commands, List.map_cons, openedFrom, Option.bind_eq_some_iff] at scanned
      obtain ⟨later, pushed, scanned⟩ := scanned
      have step : (later.length : Int) = before.length + surplus [byte] := by
        rcases push?_cases pushed with
          ⟨_, share, rfl⟩ | ⟨_, share, innermost, rfl⟩ | ⟨_, share, rfl⟩
        · rw [share, List.length_cons]
          omega
        · rw [share, List.length_cons]
          omega
        · rw [share, Int.add_zero]
      rw [ih scanned, step, surplus_cons byte rest]
      omega

theorem opened?_length {text : Bytes} {opened : List Nat}
    (scanned : opened? (commands text) = some opened) : (opened.length : Int) = surplus text := by
  simpa using openedFrom_length scanned

/-- What was scanned without a fault has nowhere more `]` than `[`, counted from its start. -/
theorem surplus_nonneg {before after : Bytes} {opened : List Nat}
    (scanned : opened? (commands (before ++ after)) = some opened) : 0 ≤ surplus before := by
  rw [commands_append, opened?, openedFrom_append, Option.bind_eq_some_iff] at scanned
  obtain ⟨middle, scanned, _⟩ := scanned
  have depth := opened?_length scanned
  omega

end Counts

section Stack

variable {source : Bytes} {position : Nat}

/-- Each entry of the stack leads back to the stack below it. -/
theorem opened?_below {commands : List Command} {count : Nat} {above outer : List Nat}
    (scanned : opened? (commands.take count) = some (above ++ position :: outer)) :
    position < count ∧ commands[position]? = some .loopStart ∧
      opened? (commands.take position) = some outer := by
  induction above generalizing count with
  | nil => exact opened?_take_cons scanned
  | cons innermost above ih =>
      obtain ⟨below, _, before⟩ := opened?_take_cons scanned
      obtain ⟨lower, rest⟩ := ih before
      exact ⟨by omega, rest⟩

theorem opened?_lt {commands : List Command} {count : Nat} {opened : List Nat}
    (scanned : opened? (commands.take count) = some opened) (member : position ∈ opened) :
    position < count := by
  obtain ⟨above, outer, rfl⟩ := List.append_of_mem member
  exact (opened?_below scanned).1

/-- Behind an open bracket, itself included, there is one `[` too many for it and for each bracket
that is open above it. -/
theorem surplus_of_opened {above outer : List Nat}
    (scanned : opened? (commands source) = some (above ++ position :: outer)) :
    surplus (source.drop position) = above.length + 1 := by
  have whole := opened?_length scanned
  rw [← List.take_length (l := commands source)] at scanned
  obtain ⟨_, _, before⟩ := opened?_below scanned
  rw [commands, ← List.map_take] at before
  have lower := opened?_length before
  have parts := surplus_append (source.take position) (source.drop position)
  rw [List.take_append_drop] at parts
  simp only [List.length_append, List.length_cons] at whole
  omega

end Stack

section Blame

/-- The positions through which a text has more `]` than `[`. -/
def overclosed (source : Bytes) : Set Nat :=
  {position | position < source.length ∧ surplus (source.take (position + 1)) < 0}

/-- The bytes from one position through another. -/
def segment (source : Bytes) (first last : Nat) : Bytes :=
  (source.take (last + 1)).drop first

/-- The positions of those `[` that nothing behind them closes. -/
def unclosed (source : Bytes) : Set Nat :=
  {position | source[position]? = some 0x5B ∧
    ∀ last, position ≤ last → last < source.length → 0 < surplus (segment source position last)}

theorem segment_concat {before : Bytes} {first last : Nat} (inside : last < before.length)
    (byte : UInt8) : segment (before ++ [byte]) first last = segment before first last := by
  rw [segment, List.take_append_of_le_length (by omega), segment]

theorem segment_whole {source : Bytes} (first : Nat) {last : Nat} (final : last + 1 = source.length) :
    segment source first last = source.drop first := by
  rw [segment, List.take_of_length_le (by omega)]

theorem mem_unclosed_concat {before : Bytes} {byte : UInt8} {position : Nat} :
    position ∈ unclosed (before ++ [byte]) ↔
      position = before.length ∧ byte = 0x5B ∨
        position ∈ unclosed before ∧ 0 < surplus (before.drop position) + surplus [byte] := by
  have length : (before ++ [byte]).length = before.length + 1 := by simp
  have whole : ∀ first ≤ before.length,
      segment (before ++ [byte]) first before.length = before.drop first ++ [byte] := by
    intro first inside
    rw [segment_whole first length.symm, List.drop_append_of_le_length inside]
  constructor
  · rintro ⟨found, positive⟩
    by_cases final : position = before.length
    · subst final
      left
      simpa using found
    · right
      have inside : position < before.length := by
        have := (List.getElem?_eq_some_iff.mp found).1
        omega
      rw [List.getElem?_append_left inside] at found
      refine ⟨⟨found, ?_⟩, ?_⟩
      · intro last behind within
        have counted := positive last behind (by omega)
        rwa [segment_concat within] at counted
      · have counted := positive before.length (by omega) (by omega)
        rwa [whole position (by omega), surplus_append] at counted
  · rintro (⟨rfl, rfl⟩ | ⟨⟨found, positive⟩, total⟩)
    · refine ⟨by simp, ?_⟩
      intro last behind within
      have last : last = before.length := by omega
      subst last
      rw [whole before.length (Nat.le_refl _)]
      simp [surplus]
    · have inside := (List.getElem?_eq_some_iff.mp found).1
      refine ⟨by rwa [List.getElem?_append_left inside], ?_⟩
      intro last behind within
      by_cases final : last = before.length
      · rwa [final, whole position (by omega), surplus_append]
      · rw [segment_concat (by omega)]
        exact positive last behind (by omega)

theorem opened?_concat (before : Bytes) (byte : UInt8) :
    opened? (commands (before ++ [byte])) =
      (opened? (commands before)).bind fun opened =>
        push? before.length opened (Command.ofByte byte) := by
  rw [commands_append, opened?, openedFrom_append]
  simp [commands, opened?, openedFrom]

/-- What is open after one more byte: the byte itself, if it is a `[`, and of the brackets before it
all but the one that it closes. -/
theorem mem_push?_iff {position other : Nat} {opened later : List Nat} {byte : UInt8}
    (pushed : push? other opened (Command.ofByte byte) = some later) :
    position ∈ later ↔ position = other ∧ byte = 0x5B ∨
      ∃ above outer, opened = above ++ position :: outer ∧
        0 < (above.length + 1 : Int) + surplus [byte] := by
  have still : ∀ {gain : Int}, 0 ≤ gain → (position ∈ opened ↔ ∃ above outer,
      opened = above ++ position :: outer ∧ 0 < (above.length + 1 : Int) + gain) := by
    intro gain nonneg
    constructor
    · intro member
      obtain ⟨above, outer, split⟩ := List.append_of_mem member
      exact ⟨above, outer, split, by omega⟩
    · rintro ⟨above, outer, rfl, _⟩
      simp
  rcases push?_cases pushed with
    ⟨start, share, rfl⟩ | ⟨start, share, innermost, rfl⟩ | ⟨start, share, rfl⟩
  · rw [share, List.mem_cons, and_iff_left start]
    exact or_congr_right (still (by decide))
  · simp only [share, start, and_false, false_or]
    constructor
    · intro member
      obtain ⟨above, outer, rfl⟩ := List.append_of_mem member
      refine ⟨innermost :: above, outer, rfl, ?_⟩
      simp only [List.length_cons]
      omega
    · rintro ⟨above, outer, split, positive⟩
      -- The closed bracket is the one with nothing above it.
      cases above with
      | nil => simp at positive
      | cons first above =>
          cases split
          simp
  · simp only [share, start, and_false, false_or]
    exact still (by decide)

/-- The stack holds the positions of the brackets that nothing behind them closes. -/
theorem mem_opened_iff {source : Bytes} {opened : List Nat} {position : Nat}
    (scanned : opened? (commands source) = some opened) :
    position ∈ opened ↔ position ∈ unclosed source := by
  -- From the end: a byte closes a bracket far before it, and only the stack knows how far.
  induction source using List.reverseRecOn generalizing opened with
  | nil =>
      cases scanned
      simp [unclosed]
  | append_singleton before byte ih =>
      rw [opened?_concat, Option.bind_eq_some_iff] at scanned
      obtain ⟨earlier, scanned, pushed⟩ := scanned
      rw [mem_push?_iff pushed, mem_unclosed_concat, ← ih scanned]
      apply or_congr_right
      constructor
      · rintro ⟨above, outer, rfl, positive⟩
        rw [surplus_of_opened scanned]
        exact ⟨by simp, positive⟩
      · rintro ⟨member, positive⟩
        obtain ⟨above, outer, rfl⟩ := List.append_of_mem member
        rw [surplus_of_opened scanned] at positive
        exact ⟨above, outer, rfl, positive⟩

theorem innermost_is_greatest {source : Bytes} {innermost : Nat} {outer : List Nat}
    (scanned : opened? (commands source) = some (innermost :: outer)) :
    IsGreatest (unclosed source) innermost := by
  constructor
  · exact (mem_opened_iff scanned).mp List.mem_cons_self
  · intro position member
    have stack := (mem_opened_iff scanned).mpr member
    rw [← List.take_length (l := commands source)] at scanned
    obtain ⟨_, _, before⟩ := opened?_take_cons scanned
    rcases List.mem_cons.mp stack with rfl | lower
    · exact Nat.le_refl _
    · exact Nat.le_of_lt (opened?_lt before lower)

/-- A scan that does not come to its end stops at a closing bracket with nothing open. -/
theorem openedFrom_eq_none {position : Nat} {opened : List Nat} {commands : List Command}
    (stopped : openedFrom position opened commands = none) :
    ∃ before after, commands = before ++ .loopEnd :: after ∧
      openedFrom position opened before = some [] := by
  induction commands generalizing position opened with
  | nil => cases stopped
  | cons command rest ih =>
      rw [openedFrom] at stopped
      cases pushed : push? position opened command with
      | none =>
          have stop : command = .loopEnd ∧ opened = [] := by
            cases command <;> cases opened <;> simp [push?] at pushed ⊢
          obtain ⟨rfl, rfl⟩ := stop
          exact ⟨[], rest, rfl, rfl⟩
      | some later =>
          rw [pushed, Option.bind_some] at stopped
          obtain ⟨before, after, rfl, scanned⟩ := ih stopped
          refine ⟨command :: before, after, rfl, ?_⟩
          rw [openedFrom, pushed, Option.bind_some, scanned]

theorem overclosed_eq_empty {source : Bytes} {opened : List Nat}
    (scanned : opened? (commands source) = some opened) : overclosed source = ∅ := by
  apply Set.eq_empty_of_forall_notMem
  rintro position ⟨_, negative⟩
  rw [← List.take_append_drop (position + 1) source] at scanned
  have nonneg := surplus_nonneg scanned
  omega

theorem unmatched_is_least {before : Bytes} (scanned : opened? (commands before) = some [])
    (after : Bytes) :
    IsLeast (overclosed (before ++ 0x5D :: after)) before.length := by
  have whole : before ++ 0x5D :: after = (before ++ [0x5D]) ++ after := by simp
  have level := opened?_length scanned
  constructor
  · refine ⟨by simp, ?_⟩
    rw [whole, List.take_append_of_le_length (by simp), List.take_of_length_le (by simp),
      surplus_append, ← level]
    decide
  · rintro position ⟨_, negative⟩
    by_contra below
    rw [List.take_append_of_le_length (by omega)] at negative
    rw [← List.take_append_drop (position + 1) before] at scanned
    have nonneg := surplus_nonneg scanned
    omega

/-- A scan comes to the end of its source, or it stops at the first `]` too many. -/
theorem validate_cases (source : Bytes) :
    (∃ opened, opened? (commands source) = some opened ∧
      validate source = opened.head?.map fun (innermost : Nat) => .unmatchedOpen innermost) ∨
    ∃ before after, source = before ++ 0x5D :: after ∧ opened? (commands before) = some [] ∧
      validate source = some (.unmatchedClose before.length) := by
  cases scanned : opened? (commands source) with
  | some opened => exact .inl ⟨opened, rfl, scan_of_opened scanned⟩
  | none =>
      right
      obtain ⟨front, back, split, empty⟩ := openedFrom_eq_none scanned
      simp only [commands, List.map_eq_append_iff, List.map_eq_cons_iff] at split
      obtain ⟨before, _, rfl, rfl, byte, after, rfl, stop, rfl⟩ := split
      rw [Command.ofByte_eq_loopEnd_iff] at stop
      subst stop
      refine ⟨before, after, rfl, empty, scan_of_unmatched ?_ ?_⟩
      · simp [commands, Command.ofByte]
      · rw [commands_append, List.take_left' (by simp [commands])]
        exact empty

theorem validate_eq_unmatchedClose_iff {source : Bytes} {position : Int} :
    validate source = some (.unmatchedClose position) ↔
      ∃ place : Nat, position = place ∧ IsLeast (overclosed source) place := by
  rcases validate_cases source with
    ⟨opened, scanned, verdict⟩ | ⟨before, after, rfl, scanned, verdict⟩
  · rw [verdict, overclosed_eq_empty scanned]
    simp [IsLeast]
  · have least := unmatched_is_least scanned after
    rw [verdict, Option.some.injEq, Fault.unmatchedClose.injEq]
    constructor
    · rintro rfl
      exact ⟨before.length, rfl, least⟩
    · rintro ⟨place, rfl, other⟩
      rw [least.unique other]

theorem getElem?_of_least {source : Bytes} {place : Nat}
    (least : IsLeast (overclosed source) place) : source[place]? = some 0x5D := by
  rcases validate_cases source with ⟨opened, scanned, _⟩ | ⟨before, after, rfl, scanned, _⟩
  · rw [overclosed_eq_empty scanned] at least
    cases least.1
  · rw [least.unique (unmatched_is_least scanned after)]
    simp

theorem validate_eq_unmatchedOpen_iff {source : Bytes} {position : Int} :
    validate source = some (.unmatchedOpen position) ↔
      ∃ place : Nat, position = place ∧ overclosed source = ∅ ∧
        IsGreatest (unclosed source) place := by
  rcases validate_cases source with
    ⟨opened, scanned, verdict⟩ | ⟨before, after, rfl, scanned, verdict⟩
  · rw [verdict, overclosed_eq_empty scanned]
    cases opened with
    | nil =>
        have closed : ∀ place, place ∉ unclosed source := by
          intro place member
          cases (mem_opened_iff scanned).mpr member
        simp [IsGreatest, closed]
    | cons innermost outer =>
        have greatest := innermost_is_greatest scanned
        rw [List.head?_cons, Option.map_some, Option.some.injEq, Fault.unmatchedOpen.injEq]
        constructor
        · rintro rfl
          exact ⟨innermost, rfl, rfl, greatest⟩
        · rintro ⟨place, rfl, _, other⟩
          rw [greatest.unique other]
  · rw [verdict]
    constructor
    · intro contra
      cases contra
    · rintro ⟨_, _, nowhere, _⟩
      have member := (unmatched_is_least scanned after).1
      rw [nowhere] at member
      cases member

/-- Validation accepts the balanced texts and no others. It blames a `]` exactly if it is the first
one too many, and a `[` exactly if no `]` is too many and it is the last that is never closed. -/
theorem validation_decides_balance (source : Bytes) :
    (validate source = none ↔ Balanced source) ∧
    (∀ position : Int, validate source = some (.unmatchedClose position) ↔
      ∃ place : Nat, position = place ∧ IsLeast (overclosed source) place) ∧
    (∀ place, IsLeast (overclosed source) place → source[place]? = some 0x5D) ∧
    ∀ position : Int, validate source = some (.unmatchedOpen position) ↔
      ∃ place : Nat, position = place ∧ overclosed source = ∅ ∧
        IsGreatest (unclosed source) place := by
  refine ⟨validate_eq_none_iff_balanced, ?_, ?_, ?_⟩
  · intro position
    exact validate_eq_unmatchedClose_iff
  · intro place least
    exact getElem?_of_least least
  · intro position
    exact validate_eq_unmatchedOpen_iff

/-- In `[a[]b[[]` two brackets stay open, and the inner one is blamed. -/
theorem inner_open_bracket_is_blamed :
    validate (utf8 "[a[]b[[]") = some (.unmatchedOpen 5) ∧
      IsGreatest (unclosed (utf8 "[a[]b[[]")) 5 ∧ ¬ Balanced (utf8 "[a[]b[[]") := by
  obtain ⟨accepts, _, _, blames⟩ := validation_decides_balance (utf8 "[a[]b[[]")
  have verdict : validate (utf8 "[a[]b[[]") = some (.unmatchedOpen 5) := by decide +kernel
  obtain ⟨place, same, _, greatest⟩ := (blames 5).mp verdict
  refine ⟨verdict, ?_, ?_⟩
  · rwa [show place = 5 by omega] at greatest
  · rw [← accepts, verdict]
    simp

end Blame

end Brackets

end Brainfuck
