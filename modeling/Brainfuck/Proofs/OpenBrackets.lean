import Brainfuck.Brackets

/-!
The state of a scan in mid source. `opened?` gives the positions of the brackets that are open
after some commands, innermost first, as long as no closing bracket was without a partner. What
a scan says of a whole source is read off its state at any position of it, and each open bracket
leads back to the state at its own position.
-/

namespace Brainfuck.Brackets

/-- The open brackets after one more command. -/
def push? (position : Nat) (opened : List Nat) : Command → Option (List Nat)
  | .loopStart => some (position :: opened)
  | .loopEnd => opened.tail?
  | _ => some opened

def openedFrom (position : Nat) (opened : List Nat) : List Command → Option (List Nat)
  | [] => some opened
  | command :: rest =>
      (push? position opened command).bind fun later => openedFrom (position + 1) later rest

/-- The brackets that are open after the commands from the start of a source. -/
def opened? (commands : List Command) : Option (List Nat) :=
  openedFrom 0 [] commands

theorem push?_other {position : Nat} {opened : List Nat} {command : Command}
    (start : command ≠ .loopStart) (stop : command ≠ .loopEnd) :
    push? position opened command = some opened := by
  cases command <;> first | rfl | contradiction

/-- One step of a scan: it goes on with the open brackets after the command, and only a closing
bracket without a partner leaves none to go on with. -/
theorem scan_cons (position : Nat) (opened : List Nat) (command : Command)
    (rest : List Command) :
    scan position opened (command :: rest) =
      match push? position opened command with
      | none => some (.unmatchedClose position)
      | some later => scan (position + 1) later rest := by
  cases command with
  | loopEnd => cases opened <;> rfl
  | increment | decrement | left | right | output | input | loopStart | ignore => rfl

theorem openedFrom_append (position : Nat) (opened : List Nat) (before after : List Command) :
    openedFrom position opened (before ++ after) =
      (openedFrom position opened before).bind fun later =>
        openedFrom (position + before.length) later after := by
  induction before generalizing position opened with
  | nil => rfl
  | cons command rest ih =>
      simp only [List.cons_append, openedFrom, List.length_cons]
      cases push? position opened command with
      | none => rfl
      | some later =>
          simp only [Option.bind_some, ih]
          rw [Nat.add_right_comm, Nat.add_assoc]

theorem scan_append {position : Nat} {opened later : List Nat} {before : List Command}
    (scanned : openedFrom position opened before = some later) (after : List Command) :
    scan position opened (before ++ after) = scan (position + before.length) later after := by
  induction before generalizing position opened with
  | nil =>
      cases scanned
      rfl
  | cons command rest ih =>
      rw [List.cons_append, scan_cons]
      simp only [openedFrom, Option.bind_eq_some_iff] at scanned
      obtain ⟨next, pushed, scanned⟩ := scanned
      simp only [pushed, ih scanned, List.length_cons]
      rw [Nat.add_right_comm, Nat.add_assoc]

section Sources

variable {commands : List Command}

theorem opened?_take_succ {position : Nat} {command : Command}
    (found : commands[position]? = some command) :
    opened? (commands.take (position + 1)) =
      (opened? (commands.take position)).bind fun opened => push? position opened command := by
  obtain ⟨inside, _⟩ := List.getElem?_eq_some_iff.mp found
  have length : (commands.take position).length = position := by
    simp only [List.length_take]
    omega
  rw [List.take_add_one, found]
  simp only [opened?, openedFrom_append, Option.toList_some, openedFrom, length, Nat.zero_add]
  congr 1
  funext opened
  cases push? position opened command <;> rfl

/-- The state before an open bracket is the state now without that bracket and those inside. -/
theorem opened?_take_cons {count position : Nat} {outer : List Nat}
    (scanned : opened? (commands.take count) = some (position :: outer)) :
    position < count ∧ commands[position]? = some .loopStart ∧
      opened? (commands.take position) = some outer := by
  -- A closing bracket gives back the state before its partner, which may lie far behind.
  induction count using Nat.strongRecOn generalizing position outer with
  | ind count ih =>
      cases count with
      | zero => simp [opened?, openedFrom] at scanned
      | succ count =>
          cases found : commands[count]? with
          | none =>
              have short : commands.length ≤ count := List.getElem?_eq_none_iff.mp found
              rw [List.take_of_length_le (by omega), ← List.take_of_length_le short] at scanned
              obtain ⟨below, rest⟩ := ih count (Nat.lt_succ_self count) scanned
              exact ⟨by omega, rest⟩
          | some command =>
              rw [opened?_take_succ found, Option.bind_eq_some_iff] at scanned
              obtain ⟨opened, earlier, pushed⟩ := scanned
              by_cases start : command = .loopStart
              · subst start
                cases pushed
                exact ⟨Nat.lt_succ_self _, found, earlier⟩
              by_cases stop : command = .loopEnd
              · subst stop
                obtain ⟨innermost, rfl⟩ : ∃ innermost, opened = innermost :: position :: outer := by
                  cases opened with
                  | nil => simp [push?] at pushed
                  | cons innermost later =>
                      simp only [push?, List.tail?_cons, Option.some.injEq] at pushed
                      exact ⟨innermost, by rw [pushed]⟩
                obtain ⟨inner, _, before⟩ := ih count (Nat.lt_succ_self count) earlier
                obtain ⟨below, rest⟩ := ih innermost (by omega) before
                exact ⟨by omega, rest⟩
              · rw [push?_other start stop] at pushed
                cases pushed
                obtain ⟨below, rest⟩ := ih count (Nat.lt_succ_self count) earlier
                exact ⟨by omega, rest⟩

/-- A source that is scanned to its end is blamed for its innermost open bracket. -/
theorem scan_of_opened {opened : List Nat} (scanned : opened? commands = some opened) :
    scan 0 [] commands = opened.head?.map fun (innermost : Nat) => .unmatchedOpen innermost := by
  have whole := scan_append scanned []
  rw [List.append_nil] at whole
  rw [whole, scan]

/-- A closing bracket with nothing open before it is the one that is blamed. -/
theorem scan_of_unmatched {position : Nat} (found : commands[position]? = some .loopEnd)
    (scanned : opened? (commands.take position) = some []) :
    scan 0 [] commands = some (.unmatchedClose position) := by
  obtain ⟨inside, here⟩ := List.getElem?_eq_some_iff.mp found
  have split : commands = commands.take position ++ .loopEnd :: commands.drop (position + 1) := by
    rw [← here, ← List.drop_eq_getElem_cons inside, List.take_append_drop]
  have length : (commands.take position).length = position := by
    simp only [List.length_take]
    omega
  rw [split, scan_append scanned, length, Nat.zero_add]
  rfl

end Sources

end Brainfuck.Brackets
