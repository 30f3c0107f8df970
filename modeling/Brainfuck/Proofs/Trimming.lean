import Brainfuck.Text.WhiteSpace
import Mathlib.Data.List.Basic

/-!
Trimming. A text is white space, a core that neither begins nor ends with white space, and white
space again. No encoding of a white space character begins another one, from the left or from the
right, and none can begin within the core and reach into the white space behind it. So the core is
determined by the text, and it is what trimming leaves.
-/

namespace Brainfuck.WhiteSpace

section Marks

/-- No mark is empty, and none begins another. -/
structure PrefixCode (marks : List Bytes) : Prop where
  filled : [] ∉ marks
  apart : ∀ mark ∈ marks, ∀ other ∈ marks, mark <+: other → mark = other

/-- What a text is without all the marks in front of it. -/
structure Sheds (marks : List Bytes) (text rest : Bytes) : Prop where
  front : ∃ pieces ⊆ marks, pieces.flatten ++ rest = text
  clear : ∀ mark ∈ marks, ¬ mark <+: rest

variable {marks : List Bytes} {text rest other : Bytes}

theorem mark_of_findSome? (found : marks.findSome? (Bytes.after? · text) = some rest) :
    ∃ mark ∈ marks, mark ++ rest = text := by
  obtain ⟨mark, member, starts⟩ := List.exists_of_findSome?_eq_some found
  exact ⟨mark, member, List.isPrefixOf?_eq_some_iff_append_eq.mp starts⟩

theorem clear_of_findSome? (nothing : marks.findSome? (Bytes.after? · text) = none) :
    ∀ mark ∈ marks, ¬ mark <+: text := by
  rintro mark member ⟨rest, starts⟩
  have missed := List.findSome?_eq_none_iff.mp nothing mark member
  rw [Bytes.after?, List.isPrefixOf?_eq_some_iff_append_eq.mpr starts] at missed
  cases missed

/-- With as many rounds as the text has bytes no mark is left in front. -/
theorem dropMarks_sheds (filled : [] ∉ marks) {rounds : Nat} (enough : text.length ≤ rounds) :
    Sheds marks text (dropMarks marks rounds text) := by
  induction rounds generalizing text with
  | zero =>
      have empty : text = [] := List.length_eq_zero_iff.mp (Nat.le_zero.mp enough)
      subst empty
      refine ⟨⟨[], List.nil_subset marks, rfl⟩, ?_⟩
      intro mark member starts
      exact filled (List.prefix_nil.mp starts ▸ member)
  | succ rounds ih =>
      rw [dropMarks]
      split
      · rename_i rest found
        obtain ⟨mark, member, rfl⟩ := mark_of_findSome? found
        have long : mark ≠ [] := fun empty => filled (empty ▸ member)
        have shorter : rest.length ≤ rounds := by
          have := List.length_pos_iff.mpr long
          rw [List.length_append] at enough
          omega
        obtain ⟨⟨pieces, known, whole⟩, clear⟩ := ih shorter
        refine ⟨⟨mark :: pieces, List.cons_subset.mpr ⟨member, known⟩, ?_⟩, clear⟩
        rw [List.flatten_cons, List.append_assoc, whole]
      · rename_i nothing
        exact ⟨⟨[], List.nil_subset marks, rfl⟩, clear_of_findSome? nothing⟩

/-- The marks in front of a text can be told apart in one way only. -/
theorem Sheds.unique (code : PrefixCode marks) (first : Sheds marks text rest)
    (second : Sheds marks text other) : rest = other := by
  obtain ⟨⟨pieces, known, rfl⟩, clear⟩ := first
  obtain ⟨⟨others, common, same⟩, stop⟩ := second
  induction pieces generalizing others with
  | nil =>
      cases others with
      | nil => exact same.symm
      | cons mark others =>
          -- The second way finds one more mark where the first one ends.
          rw [List.flatten_cons, List.append_assoc] at same
          exact absurd ⟨_, same⟩ (clear mark (common List.mem_cons_self))
  | cons mark pieces ih =>
      obtain ⟨member, later⟩ := List.cons_subset.mp known
      rw [List.flatten_cons, List.append_assoc] at same
      cases others with
      | nil => exact absurd ⟨_, same.symm⟩ (stop mark member)
      | cons found others =>
          obtain ⟨foundMember, left⟩ := List.cons_subset.mp common
          rw [List.flatten_cons, List.append_assoc] at same
          have agree : found = mark := by
            have here : mark <+: mark ++ (pieces.flatten ++ rest) := List.prefix_append _ _
            have there : found <+: mark ++ (pieces.flatten ++ rest) := ⟨_, same⟩
            rcases List.prefix_or_prefix_of_prefix here there with begins | begins
            · exact (code.apart mark member found foundMember begins).symm
            · exact code.apart found foundMember mark member begins
          subst agree
          exact ih later others left (List.append_cancel_left same)

theorem dropMarks_eq_iff (code : PrefixCode marks) {rounds : Nat} (enough : text.length ≤ rounds) :
    dropMarks marks rounds text = rest ↔ Sheds marks text rest := by
  have sheds := dropMarks_sheds code.filled enough
  constructor
  · rintro rfl
    exact sheds
  · exact sheds.unique code

theorem subset_reversed {pieces : List Bytes} (known : pieces ⊆ marks) :
    (pieces.map List.reverse).reverse ⊆ marks.map List.reverse := by
  intro mark member
  obtain ⟨piece, listed, rfl⟩ := List.mem_map.mp (List.mem_reverse.mp member)
  exact List.mem_map_of_mem (known listed)

end Marks

section Characters

/-- White space and nothing else. -/
def Blank (text : Bytes) : Prop :=
  ∃ characters : List Char, (∀ character ∈ characters, character.toNat ∈ codePoints) ∧
    characters.flatMap String.utf8EncodeChar = text

/-- No white space stands at either end. -/
def Bare (text : Bytes) : Prop :=
  ∀ mark ∈ encodings, ¬ mark <+: text ∧ ¬ mark <:+ text

instance (text : Bytes) : Decidable (Bare text) :=
  inferInstanceAs (Decidable (∀ mark ∈ encodings, ¬ mark <+: text ∧ ¬ mark <:+ text))

/-- A text without the white space around it. -/
structure Trimmed (text core : Bytes) : Prop where
  around : ∃ front back, Blank front ∧ Blank back ∧ front ++ core ++ back = text
  bare : Bare core

variable {text core : Bytes}

theorem mem_encodings_iff {mark : Bytes} :
    mark ∈ encodings ↔
      ∃ character : Char, character.toNat ∈ codePoints ∧ String.utf8EncodeChar character = mark := by
  have valid : ∀ code ∈ codePoints, (Char.ofNat code).toNat = code := by decide
  rw [encodings, List.mem_map]
  constructor
  · rintro ⟨code, member, rfl⟩
    exact ⟨Char.ofNat code, (valid code member).symm ▸ member, rfl⟩
  · rintro ⟨character, member, rfl⟩
    exact ⟨character.toNat, member, by rw [Char.ofNat_toNat]⟩

theorem Blank.nil : Blank [] :=
  ⟨[], by simp, rfl⟩

theorem Blank.cons {character : Char} {rest : Bytes} (blank : Blank rest)
    (white : character.toNat ∈ codePoints) : Blank (String.utf8EncodeChar character ++ rest) := by
  obtain ⟨characters, all, rfl⟩ := blank
  exact ⟨character :: characters, List.forall_mem_cons.mpr ⟨white, all⟩, List.flatMap_cons⟩

theorem blank_iff : Blank text ↔ ∃ pieces ⊆ encodings, pieces.flatten = text := by
  constructor
  · rintro ⟨characters, white, rfl⟩
    refine ⟨characters.map String.utf8EncodeChar, ?_, rfl⟩
    intro mark member
    obtain ⟨character, listed, rfl⟩ := List.mem_map.mp member
    exact mem_encodings_iff.mpr ⟨character, white character listed, rfl⟩
  · rintro ⟨pieces, known, rfl⟩
    induction pieces with
    | nil => exact .nil
    | cons mark pieces ih =>
        obtain ⟨member, later⟩ := List.cons_subset.mp known
        obtain ⟨character, white, rfl⟩ := mem_encodings_iff.mp member
        exact (ih later).cons white

theorem Blank.append {front back : Bytes} (first : Blank front) (second : Blank back) :
    Blank (front ++ back) := by
  obtain ⟨characters, white, rfl⟩ := first
  obtain ⟨others, pale, rfl⟩ := second
  exact ⟨characters ++ others, List.forall_mem_append.mpr ⟨white, pale⟩, List.flatMap_append⟩

theorem encodings_prefixCode : PrefixCode encodings :=
  ⟨by decide +kernel, by decide +kernel⟩

theorem reversed_prefixCode : PrefixCode (encodings.map List.reverse) :=
  ⟨by decide +kernel, by decide +kernel⟩

theorem trimStart_eq_iff {rest : Bytes} :
    trimStart text = rest ↔
      (∃ front, Blank front ∧ front ++ rest = text) ∧ ∀ mark ∈ encodings, ¬ mark <+: rest := by
  rw [trimStart, dropMarks_eq_iff encodings_prefixCode (Nat.le_refl _)]
  constructor
  · rintro ⟨⟨pieces, known, whole⟩, clear⟩
    exact ⟨⟨pieces.flatten, blank_iff.mpr ⟨pieces, known, rfl⟩, whole⟩, clear⟩
  · rintro ⟨⟨front, blank, whole⟩, clear⟩
    obtain ⟨pieces, known, rfl⟩ := blank_iff.mp blank
    exact ⟨⟨pieces, known, whole⟩, clear⟩

theorem trimEnd_eq_iff :
    trimEnd text = core ↔
      (∃ back, Blank back ∧ core ++ back = text) ∧ ∀ mark ∈ encodings, ¬ mark <:+ core := by
  -- From the end a text is trimmed as its reverse is from the start.
  have enough : text.reverse.length ≤ text.length := Nat.le_of_eq List.length_reverse
  rw [trimEnd, List.reverse_eq_iff, dropMarks_eq_iff reversed_prefixCode enough]
  constructor
  · rintro ⟨⟨pieces, known, whole⟩, clear⟩
    have original := subset_reversed known
    rw [List.map_map, List.reverse_involutive.comp_self, List.map_id] at original
    refine ⟨⟨pieces.flatten.reverse, ?_, ?_⟩, ?_⟩
    · exact blank_iff.mpr ⟨_, original, List.reverse_flatten.symm⟩
    · rw [← List.reverse_inj, List.reverse_append, List.reverse_reverse, whole]
    · intro mark member ends
      exact clear mark.reverse (List.mem_map_of_mem member) (List.reverse_prefix.mpr ends)
  · rintro ⟨⟨back, blank, rfl⟩, clear⟩
    obtain ⟨pieces, known, rfl⟩ := blank_iff.mp blank
    refine ⟨⟨_, subset_reversed known, ?_⟩, ?_⟩
    · rw [List.reverse_append, List.reverse_flatten]
    · intro mark member starts
      obtain ⟨original, known, rfl⟩ := List.mem_map.mp member
      exact clear original known (List.reverse_prefix.mp starts)

/-- The first byte of an encoding is not one of those that continue a character, all others are. -/
theorem encodings_bytes :
    ∀ mark ∈ encodings, (∀ byte ∈ mark.head?, Utf8.payload? byte = none) ∧
      ∀ byte ∈ mark.tail, Utf8.payload? byte ≠ none := by
  decide +kernel

theorem Blank.head {byte : UInt8} {rest : Bytes} (blank : Blank (byte :: rest)) :
    Utf8.payload? byte = none := by
  obtain ⟨pieces, known, whole⟩ := blank_iff.mp blank
  cases pieces with
  | nil => cases whole
  | cons mark pieces =>
      have member := known List.mem_cons_self
      cases mark with
      | nil => exact absurd member encodings_prefixCode.filled
      | cons first others =>
          obtain ⟨rfl, _⟩ := List.cons.inj whole
          exact (encodings_bytes _ member).1 _ rfl

theorem clear_append {mark back : Bytes} (member : mark ∈ encodings) (filled : core ≠ [])
    (clear : ¬ mark <+: core) (blank : Blank back) : ¬ mark <+: core ++ back := by
  rintro ⟨rest, whole⟩
  rcases List.append_eq_append_iff.mp whole with ⟨more, begins, _⟩ | ⟨cut, split, later⟩
  · exact clear ⟨more, begins.symm⟩
  · cases cut with
    | nil => exact clear ⟨[], by rw [split, List.append_nil, List.append_nil]⟩
    | cons byte others =>
        -- The mark would go on with the first byte of the white space.
        subst later
        obtain ⟨first, inner, rfl⟩ := List.exists_cons_of_ne_nil filled
        have within : byte ∈ mark.tail := by
          rw [split]
          exact List.mem_append_right inner List.mem_cons_self
        exact (encodings_bytes mark member).2 byte within blank.head

theorem bare_of_visible (visible : ∀ byte ∈ text, 0x20 < byte.toNat ∧ byte.toNat < 0x7F) :
    Bare text := by
  have unseen : ∀ mark ∈ encodings, ∃ byte ∈ mark, ¬ (0x20 < byte.toNat ∧ byte.toNat < 0x7F) := by
    decide +kernel
  intro mark member
  obtain ⟨byte, within, hidden⟩ := unseen mark member
  constructor
  · intro starts
    exact hidden (visible byte (starts.subset within))
  · intro ends
    exact hidden (visible byte (ends.subset within))

theorem Trimmed.trim_eq (trimmed : Trimmed text core) : trim text = core := by
  obtain ⟨⟨front, back, first, second, rfl⟩, bare⟩ := trimmed
  by_cases empty : core = []
  · subst empty
    have start : trimStart (front ++ [] ++ back) = [] := by
      refine trimStart_eq_iff.mpr ⟨⟨front ++ back, first.append second, ?_⟩, ?_⟩
      · rw [List.append_nil, List.append_nil]
      · exact fun mark member => (bare mark member).1
    rw [trim, start]
    rfl
  · have start : trimStart (front ++ core ++ back) = core ++ back := by
      refine trimStart_eq_iff.mpr ⟨⟨front, first, (List.append_assoc _ _ _).symm⟩, ?_⟩
      intro mark member
      exact clear_append member empty (bare mark member).1 second
    rw [trim, start, trimEnd_eq_iff]
    exact ⟨⟨back, second, rfl⟩, fun mark member => (bare mark member).2⟩

theorem trimmed_trim (text : Bytes) : Trimmed text (trim text) := by
  obtain ⟨⟨front, first, start⟩, clear⟩ := trimStart_eq_iff.mp (Eq.refl (trimStart text))
  obtain ⟨⟨back, second, whole⟩, ends⟩ := trimEnd_eq_iff.mp (Eq.refl (trim text))
  refine ⟨⟨front, back, first, second, ?_⟩, ?_⟩
  · rw [List.append_assoc, whole, start]
  · intro mark member
    refine ⟨?_, ends mark member⟩
    intro begins
    exact clear mark member (whole ▸ begins.trans (List.prefix_append _ back))

theorem trim_eq_iff : trim text = core ↔ Trimmed text core := by
  constructor
  · rintro rfl
    exact trimmed_trim text
  · exact Trimmed.trim_eq

theorem trim_of_bare (bare : Bare text) : trim text = text :=
  trim_eq_iff.mpr ⟨⟨[], [], .nil, .nil, List.append_nil text⟩, bare⟩

end Characters

end Brainfuck.WhiteSpace
