import Brainfuck.Proofs.Reuse

/-!
Larger tapes. The ends of a tape show only where the cursor wraps around. A run that never does so
is carried, machine by machine, to the run on a tape with more zeros behind its last cell, so the
two end alike or go on for ever together.
-/

namespace Brainfuck

namespace Tape

/-- The same tape with zeros behind its last cell, up to a size. -/
def widen (size : Nat) (fits : size < 0x8000000000000000) (tape : Tape) : Tape where
  cells := tape.cells ++ Array.replicate (size - tape.cells.size) 0
  cursor := tape.cursor
  inside := by
    have := tape.inside
    rw [Array.size_append]
    omega
  fits := by
    have := tape.fits
    rw [Array.size_append, Array.size_replicate]
    omega

variable {size : Nat} {fits : size < 0x8000000000000000} {tape : Tape}

theorem cells_widen_front (fits : size < 0x8000000000000000) {index : Nat}
    (old : index < tape.size) :
    (tape.widen size fits).cells[index]? = tape.cells[index]? :=
  Array.getElem?_append_left old

theorem cells_widen_back (fits : size < 0x8000000000000000) {index : Nat}
    (new : tape.size ≤ index) (inside : index < size) :
    (tape.widen size fits).cells[index]? = some 0 := by
  simp only [Tape.size] at new
  rw [widen, Array.getElem?_append_right new, Array.getElem?_replicate, if_pos (by omega)]

theorem get_widen : (tape.widen size fits).get = tape.get := by
  have inside := tape.inside
  simp only [get, widen]
  exact Array.getElem_append_left inside

theorem set_widen (value : UInt8) :
    (tape.widen size fits).set value = (tape.set value).widen size fits := by
  have inside := tape.inside
  simp only [set, widen, Array.size_set, mk.injEq, and_true]
  exact Array.set_append_left inside

theorem modify_widen (change : UInt8 → UInt8) :
    (tape.widen size fits).modify change = (tape.modify change).widen size fits := by
  have cell : (tape.widen size fits).get = tape.get := get_widen
  change (tape.widen size fits).set (change (tape.widen size fits).get) =
    (tape.set (change tape.get)).widen size fits
  rw [cell, set_widen]

theorem ext_cells {first second : Tape} (cells : first.cells = second.cells)
    (cursor : first.cursor = second.cursor) : first = second := by
  cases first
  cases second
  simp only at cells cursor
  subst cells cursor
  rfl

/-- Away from the last cell the cursor moves alike, whatever lies behind. -/
theorem right_widen (away : tape.cursor ≠ tape.size - 1) :
    (tape.widen size fits).right = tape.right.widen size fits := by
  have inside : tape.cursor + 1 < tape.size := by
    have := tape.inside
    simp only [Tape.size] at away ⊢
    omega
  have wider : tape.cursor + 1 < (tape.widen size fits).size := by
    simp only [Tape.size] at inside ⊢
    simp only [widen, Array.size_append]
    omega
  apply ext_cells
  · rw [cells_right]
    simp only [widen, cells_right]
  · rw [cursor_right]
    simp only [widen, cursor_right, inside, ↓reduceIte]
    exact if_pos wider

theorem left_widen (away : tape.cursor ≠ 0) :
    (tape.widen size fits).left = tape.left.widen size fits := by
  apply ext_cells
  · rw [cells_left]
    simp only [widen, cells_left]
  · rw [cursor_left]
    simp only [widen, cursor_left, away, ↓reduceIte]

theorem reset_widen {large : Tape} (grows : tape.size ≤ large.size)
    (fits : large.size < 0x8000000000000000) : large.reset = tape.reset.widen large.size fits := by
  apply ext_cells
  · simp only [reset, blank, widen, Tape.size, Array.size_replicate] at grows ⊢
    rw [Array.replicate_append_replicate, Nat.add_sub_cancel' grows]
  · rfl

end Tape

namespace Machine

/-- A command that moves the cursor over an end of the tape. -/
def Wraps (command : Command) (machine : Machine) : Prop :=
  command = .left ∧ machine.tape.cursor = 0 ∨
    command = .right ∧ machine.tape.cursor = machine.tape.size - 1

/-- The same machine on a larger tape. -/
def widen (size : Nat) (fits : size < 0x8000000000000000) (machine : Machine) : Machine :=
  { machine with tape := machine.tape.widen size fits }

theorem widen_apart (size : Nat) (fits : size < 0x8000000000000000) (machine : Machine) :
    (machine.widen size fits).pointer = machine.pointer ∧
      (machine.widen size fits).loops = machine.loops ∧
      (machine.widen size fits).asked = machine.asked :=
  ⟨rfl, rfl, rfl⟩

variable {size : Nat} {fits : size < 0x8000000000000000} {machine : Machine}

theorem readLine_widen :
    (machine.widen size fits).readLine = machine.readLine.map (widen size fits) := by
  have same : (machine.widen size fits).source = machine.source := rfl
  simp only [readLine, same]
  cases machine.source with
  | none => rfl
  | some source =>
      have stored : (machine.tape.widen size fits).set (firstCharCode source.next.1.line) =
          (machine.tape.set (firstCharCode source.next.1.line)).widen size fits :=
        Tape.set_widen _
      simp only [widen, stored]
      cases source.next.1.error with
      | none => rfl
      | some cause =>
          dsimp only
          by_cases ended : cause.is .endOfInput = true
          · rw [if_pos ended, if_pos ended]
            rfl
          · rw [if_neg ended, if_neg ended]
            rfl

theorem execute_widen {limit : Int64} {command : Command} (inside : ¬ machine.Wraps command) :
    (machine.widen size fits).execute limit command =
      (machine.execute limit command).map (widen size fits) := by
  cases command with
  | increment | decrement =>
      simp only [execute, widen, Step.map, Tape.increment, Tape.decrement, Tape.modify_widen]
  | left =>
      have away : machine.tape.cursor ≠ 0 := fun wraps => inside (.inl ⟨rfl, wraps⟩)
      simp only [execute, widen, Step.map, Tape.left_widen away]
  | right =>
      have away : machine.tape.cursor ≠ machine.tape.size - 1 :=
        fun wraps => inside (.inr ⟨rfl, wraps⟩)
      simp only [execute, widen, Step.map, Tape.right_widen away]
  | output => simp only [execute, widen, Step.map, Tape.get_widen]
  | input => exact readLine_widen
  | loopEnd =>
      exact closeLoop_carried limit (machine.tape.widen size fits) machine.source Tape.get_widen
        fun _ _ _ => rfl
  | loopStart | ignore => rfl

section Runs

variable {commands : List Command} {limit : Int64} {watch : Watch} {fuel : Nat}

theorem run_widen
    (inside : ∀ passed ∈ visited commands limit watch fuel machine, ∀ command,
      commands[passed.pointer]? = some command → ¬ passed.Wraps command) :
    (machine.widen size fits).run commands.toArray limit watch fuel =
      (machine.run commands.toArray limit watch fuel).map fun (final, halt) =>
        (final.widen size fits, halt) := by
  apply run_carried (widen_apart size fits) rfl
  -- The only commands that could tell the two tapes apart are the moves that wrap.
  intro passed member command found
  exact ⟨command, found, execute_widen (inside passed member command found)⟩

theorem visited_unwatched {passed : Machine}
    (member : passed ∈ visited commands limit watch fuel machine) :
    passed ∈ visited commands limit .never fuel machine := by
  obtain ⟨count, command, short, path, found, _⟩ := mem_visited_iff.mp member
  exact mem_visited_iff.mpr ⟨count, command, short, path.unwatched, found, rfl⟩

theorem visited_of_halted {final passed : Machine} {halt : Halt} {more : Nat}
    (halted : machine.run commands.toArray limit watch fuel = some (final, halt))
    (member : passed ∈ visited commands limit watch more machine) :
    passed ∈ visited commands limit watch fuel machine := by
  -- More fuel is of no use to a run that has ended, so the two counts go down together.
  induction fuel generalizing machine more watch with
  | zero => cases halted
  | succ fuel ih =>
      cases more with
      | zero => cases member
      | succ more =>
          rcases moves_or_ends commands limit watch machine with
            ⟨command, later, moved⟩ | ⟨last, ending, ended⟩
          · rw [run_of_moves moved] at halted
            rw [visited_of_moves moved] at member ⊢
            rcases List.mem_cons.mp member with rfl | behind
            · exact List.mem_cons_self
            · exact List.mem_cons_of_mem machine (ih halted behind)
          · cases ended with
            | complete outside => simp [visited_of_complete outside] at member
            | interrupted command cause found raised => simp [visited_of_raised raised] at member
            | failed _ command error found unwatched executed =>
                rwa [visited_of_failed found unwatched executed] at member ⊢

theorem visited_size {passed : Machine}
    (member : passed ∈ visited commands limit watch fuel machine) :
    passed.tape.size = machine.tape.size := by
  obtain ⟨count, _, _, path, _⟩ := mem_visited_iff.mp member
  exact steps_size path

end Runs

end Machine

namespace Interpreter

/-- A run never moves left from the first cell nor right from the last one. -/
structure NeverWraps (interpreter : Interpreter) : Prop where
  left : ∀ fuel, ∀ passed ∈ interpreter.executions .left fuel .never, passed.tape.cursor ≠ 0
  right : ∀ fuel, ∀ passed ∈ interpreter.executions .right fuel .never,
    passed.tape.cursor ≠ interpreter.memoryLength - 1

variable {small large : Interpreter}

theorem NeverWraps.visited (inside : small.NeverWraps) {fuel : Nat} {watch : Watch}
    {passed : Machine} (member : passed ∈ small.visited fuel watch) {command : Command}
    (found : (commands small.program)[passed.pointer]? = some command) :
    ¬ passed.Wraps command := by
  have size : passed.tape.size = small.memoryLength :=
    (Machine.visited_size member).trans (Tape.size_reset small.machine.tape)
  have executed : passed ∈ small.executions command fuel .never :=
    List.mem_filter.mpr ⟨Machine.visited_unwatched member, by simpa using found⟩
  rintro (⟨rfl, first⟩ | ⟨rfl, last⟩)
  · exact inside.left fuel passed executed first
  · exact inside.right fuel passed executed (size ▸ last)

/-- The same interpreter but for a tape that is larger. -/
structure Enlarges (small large : Interpreter) : Prop where
  program : large.program = small.program
  limit : large.loopLimit = small.loopLimit
  source : large.machine.source = small.machine.source
  grows : small.memoryLength ≤ large.memoryLength

theorem memoryLength_fits (interpreter : Interpreter) :
    interpreter.memoryLength < 0x8000000000000000 :=
  interpreter.machine.tape.fits

theorem Enlarges.reset (enlarges : Enlarges small large) :
    large.machine.reset =
      small.machine.reset.widen large.memoryLength large.memoryLength_fits := by
  have tapes := Tape.reset_widen enlarges.grows large.memoryLength_fits
  simp only [Machine.reset, Machine.start, Machine.widen, enlarges.source, tapes]
  rfl

theorem Enlarges.yields (enlarges : Enlarges small large) (inside : small.NeverWraps)
    (fuel : Nat) (watch : Watch) :
    large.yields fuel watch = (small.yields fuel watch).map fun (result, final) =>
      (result, final.widen large.memoryLength large.memoryLength_fits) := by
  rw [yields_eq, yields_eq, enlarges.program, enlarges.limit, enlarges.reset,
    Machine.run_widen fun _ member _ found => inside.visited member found, Option.map_map,
    Option.map_map]
  rfl

theorem yields_size {interpreter : Interpreter} {fuel : Nat} {watch : Watch}
    {result : Result} {final : Machine}
    (left : interpreter.yields fuel watch = some (result, final)) :
    final.tape.size = interpreter.memoryLength := by
  obtain ⟨halt, ran, _⟩ := yields_eq_some_iff.mp left
  exact (Machine.run_size ran).trans (Tape.size_reset interpreter.machine.tape)

theorem memoryLength_of_build {program : Bytes} {limits : Limits} {source : Option LineSource}
    {interpreter : Interpreter} (built : build program limits source = .ok interpreter) :
    interpreter.memoryLength = limits.tapeSize.toInt.toNat := by
  obtain ⟨checked, tape, sized, rfl⟩ := build_eq_ok_iff.mp built
  obtain ⟨other, made, size⟩ :=
    Tape.ofSize_of_pos ((Limits.check_eq_none_iff limits).mp checked).1
  cases sized.symm.trans made
  exact (Tape.size_reset tape).trans size

/-- Limits that are allowed stay so with a larger tape. -/
theorem build_larger {program : Bytes} {source : Option LineSource} {limit size larger : Int64}
    (built : build program ⟨size, limit⟩ source = .ok small) (order : size ≤ larger) :
    ∃ large, build program ⟨larger, limit⟩ source = .ok large ∧ Enlarges small large := by
  obtain ⟨checked, tape, sized, rfl⟩ := build_eq_ok_iff.mp built
  obtain ⟨positive, allowed⟩ := (Limits.check_eq_none_iff _).mp checked
  have grows : size.toInt ≤ larger.toInt := Int64.le_iff_toInt_le.mp order
  have still : Limits.check ⟨larger, limit⟩ = none :=
    (Limits.check_eq_none_iff _).mpr ⟨Int.le_trans positive grows, allowed⟩
  obtain ⟨wide, made⟩ := build_of_check still program source
  refine ⟨_, made, rfl, rfl, rfl, ?_⟩
  rw [memoryLength_of_build built, memoryLength_of_build made]
  exact Int.toNat_le_toNat grows

/-- A tape that is larger changes nothing for a program that never wraps around: the run on it has
the same outcome, or goes on for ever with the other one. -/
theorem larger_tape_changes_nothing {program : Bytes} {source : Option LineSource}
    {limit size larger : Int64} (built : build program ⟨size, limit⟩ source = .ok small)
    (order : size ≤ larger) (inside : small.NeverWraps) :
    ∃ large, build program ⟨larger, limit⟩ source = .ok large ∧
      (large.Diverges ↔ small.Diverges) ∧
      ∀ fuel watch result final, small.yields fuel watch = some (result, final) →
        ∃ last, large.yields fuel watch = some (result, last) ∧
          final.tape.size = size.toInt.toNat ∧ last.tape.size = larger.toInt.toNat ∧
          last.closes = final.closes ∧ last.tape.cursor = final.tape.cursor ∧
          last.asked = final.asked ∧ last.source = final.source ∧
          (∀ index < size.toInt.toNat, last.tape.cells[index]? = final.tape.cells[index]?) ∧
          ∀ index < larger.toInt.toNat, size.toInt.toNat ≤ index →
            last.tape.cells[index]? = some 0 := by
  obtain ⟨large, made, enlarges⟩ := build_larger built order
  have same := enlarges.yields inside
  have few : small.memoryLength = size.toInt.toNat := memoryLength_of_build built
  have many : large.memoryLength = larger.toInt.toNat := memoryLength_of_build made
  refine ⟨large, made, ?_, ?_⟩
  · constructor
    · intro endless fuel
      have none := endless fuel
      rwa [same, Option.map_eq_none_iff] at none
    · intro endless fuel
      rw [same, endless fuel]
      rfl
  · intro fuel watch result final left
    have kept : final.tape.size = small.memoryLength := yields_size left
    have yielded := same fuel watch
    rw [left, Option.map_some] at yielded
    refine ⟨_, yielded, kept.trans few, (yields_size yielded).trans many, rfl, rfl, rfl, rfl, ?_, ?_⟩
    · intro index below
      exact Tape.cells_widen_front large.memoryLength_fits (by rwa [kept, few])
    · intro index below beyond
      exact Tape.cells_widen_back large.memoryLength_fits (by rwa [kept, few]) (by rwa [many])

/-- Of a run that comes to its end it is enough to look at what it has executed until then. -/
theorem NeverWraps.of_halted {interpreter : Interpreter} {fuel : Nat}
    (halted : (interpreter.yields fuel .never).isSome)
    (left : ∀ passed ∈ interpreter.executions .left fuel .never, passed.tape.cursor ≠ 0)
    (right : ∀ passed ∈ interpreter.executions .right fuel .never,
      passed.tape.cursor ≠ interpreter.memoryLength - 1) : interpreter.NeverWraps := by
  obtain ⟨⟨result, final⟩, yielded⟩ := Option.isSome_iff_exists.mp halted
  obtain ⟨halt, ran, _⟩ := yields_eq_some_iff.mp yielded
  have executed {kind : Command} {more : Nat} {passed : Machine}
      (member : passed ∈ interpreter.executions kind more .never) :
      passed ∈ interpreter.executions kind fuel .never := by
    obtain ⟨visited, found⟩ := List.mem_filter.mp member
    exact List.mem_filter.mpr ⟨Machine.visited_of_halted ran visited, found⟩
  constructor
  · intro more passed member
    exact left passed (executed member)
  · intro more passed member
    exact right passed (executed member)

/-- Copies what it reads to two cells, and comes to the last one of three without leaving it. -/
def copier : Interpreter :=
  ⟨utf8 ",[>+>+<<-]>.", -1, .start (.blank 3 (by decide) (by decide)) (some (.listed [utf8 "\x02"]))⟩

theorem copier_on_five_cells :
    copier.NeverWraps ∧ ∃ large last,
      build copier.program ⟨5, -1⟩ copier.machine.source = .ok large ∧
        large.yields 40 .never = some (⟨[2], none⟩, last) ∧ last.tape.cursor = 1 ∧
        last.closes = 2 ∧ last.tape.cells[2]? = some 2 ∧ last.tape.cells[4]? = some 0 := by
  have built : build copier.program ⟨3, -1⟩ copier.machine.source = .ok copier := by rfl
  have inside : copier.NeverWraps :=
    .of_halted (by decide +kernel : (copier.yields 40 .never).isSome = true) (by decide +kernel)
      (by decide +kernel)
  have order : (3 : Int64) ≤ 5 := by decide
  have ends : (copier.yields 40 .never).map (fun (result, final) =>
      (result, final.tape.cursor, final.closes, final.tape.cells)) =
        some (⟨[2], none⟩, 1, 2, #[0, 2, 2]) := by decide +kernel
  obtain ⟨⟨result, final⟩, left, shown⟩ := Option.map_eq_some_iff.mp ends
  simp only [Prod.mk.injEq] at shown
  obtain ⟨rfl, cursor, closes, cells⟩ := shown
  obtain ⟨large, made, _, follows⟩ := larger_tape_changes_nothing built order inside
  obtain ⟨last, yielded, _, _, counted, placed, _, _, front, back⟩ :=
    follows 40 .never _ final left
  have third := front 2 (by decide)
  rw [cells] at third
  exact ⟨inside, large, last, made, yielded, placed.trans cursor, counted.trans closes, third,
    back 4 (by decide) (by decide)⟩

end Interpreter

end Brainfuck
