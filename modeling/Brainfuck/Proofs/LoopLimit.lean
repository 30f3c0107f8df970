import Brainfuck.Proofs.Observation

/-!
Loop limits. Every jump back is paid for by a counted close, and between two closes the pointer
only moves forward, so a limit bounds the number of commands that a run executes. Up to the
first close that the limit does not allow, the run is the one without a limit, step for step.
-/

namespace Brainfuck

theorem toInt_succ {word : Int64} (below : word.toInt < 0x7FFFFFFFFFFFFFFF) :
    (word + 1).toInt = word.toInt + 1 := by
  have low := word.le_toInt
  have one : (1 : Int64).toInt = 1 := rfl
  rw [Int64.toInt_add, one]
  exact Int.bmod_eq_of_le (by omega) (by omega)

namespace Machine

variable {commands : List Command} {limit : Int64} {watch : Watch} {room : Nat}

/-- A limit that leaves room for so many more closes. The word that counts them cannot wrap
round before the limit is exceeded. -/
structure Room (limit : Int64) (room : Nat) (machine : Machine) : Prop where
  nonneg : 0 ≤ limit.toInt
  below : limit.toInt < 0x7FFFFFFFFFFFFFFF
  counted : machine.closes.toInt + room = limit.toInt

section Rooms

variable {machine later : Machine} {command : Command}

theorem start_room (nonneg : 0 ≤ limit.toInt) (below : limit.toInt < 0x7FFFFFFFFFFFFFFF)
    (tape : Tape) (source : Option LineSource) :
    Room limit limit.toInt.toNat (start tape source) := by
  refine ⟨nonneg, below, ?_⟩
  change (0 : Int64).toInt + _ = _
  rw [Int.toNat_of_nonneg nonneg, Int64.toInt_zero, Int.zero_add]

theorem Room.bounded (left : Room limit room machine) : limit ≠ -1 := by
  rintro rfl
  exact absurd left.nonneg (by decide)

theorem Room.count_toInt (left : Room limit room machine) :
    (machine.closes + 1).toInt = machine.closes.toInt + 1 := by
  have below := left.below
  have counted := left.counted
  exact toInt_succ (by omega)

theorem Room.keep {other : Int64} (left : Room limit room machine)
    (moved : Moves commands other watch machine later command) (differs : command ≠ .loopEnd) :
    Room limit room later := by
  have closes := (moves_frame moved).1
  rw [if_neg differs] at closes
  refine ⟨left.nonneg, left.below, ?_⟩
  rw [closes]
  exact left.counted

theorem Room.spend {other : Int64} (left : Room limit (room + 1) machine)
    (moved : Moves commands other watch machine later .loopEnd) : Room limit room later := by
  have closes := (moves_frame moved).1
  rw [if_pos rfl] at closes
  have counted := left.counted
  refine ⟨left.nonneg, left.below, ?_⟩
  rw [closes, left.count_toInt]
  omega

theorem execute_other (limit other : Int64) (machine : Machine) (differs : command ≠ .loopEnd) :
    machine.execute limit command = machine.execute other command := by
  cases command with
  | loopEnd => contradiction
  | increment | decrement | left | right | output | input | loopStart | ignore => rfl

theorem execute_within (left : Room limit (room + 1) machine) (command : Command) :
    machine.execute limit command = machine.execute Limits.unbounded command := by
  by_cases close : command = .loopEnd
  · subst close
    have within : ¬ limit < machine.closes + 1 := by
      have counted := left.counted
      rw [Int64.lt_iff_toInt_lt, left.count_toInt]
      omega
    simp [execute, closeLoop, within, Limits.unbounded]
  · exact execute_other limit _ machine close

/-- With no room left the limit comes first, before the bracket is looked at. -/
theorem execute_beyond (left : Room limit 0 machine) :
    machine.execute limit .loopEnd =
      .failed { machine with closes := machine.closes + 1 } (.fault (.loopLimit limit.toInt)) := by
  have exceeded : limit < machine.closes + 1 := by
    have counted := left.counted
    rw [Int64.lt_iff_toInt_lt, left.count_toInt]
    omega
  simp [execute, closeLoop, exceeded, left.bounded]

end Rooms

section Termination

/-- Each close that is left pays for one walk through the commands, and the commands behind the
pointer are those of the walk that is under way. -/
theorem visited_length_le {machine : Machine} (left : Room limit room machine) (fuel : Nat) :
    (visited commands limit watch fuel machine).length ≤
      room * commands.length + (commands.length - machine.pointer) := by
  induction fuel generalizing machine room watch with
  | zero => simp [visited]
  | succ fuel ih =>
      rcases moves_or_ends commands limit watch machine with
        ⟨command, later, moved⟩ | ⟨final, halt, ended⟩
      · obtain ⟨inside, _⟩ := List.getElem?_eq_some_iff.mp moved.found
        rw [visited_of_moves moved, List.length_cons]
        by_cases close : command = .loopEnd
        · subst close
          cases room with
          | zero => cases (execute_beyond left).symm.trans moved.executed
          | succ room =>
              -- One walk is paid for by this close, wherever it leads.
              have rest := @ih (watch.pass 1) room later (left.spend moved)
              rw [Nat.succ_mul]
              omega
        · have rest := @ih (watch.pass 1) room later (left.keep moved close)
          rcases execute_next_control moved.executed with
            ⟨_, _, pointer⟩ | ⟨rfl, _⟩ | ⟨_, _, _, pointer⟩
          · omega
          · contradiction
          · omega
      · cases ended with
        | complete outside => simp [visited_of_complete outside]
        | interrupted command cause found raised => simp [visited_of_raised raised]
        | failed _ command error found unwatched executed =>
            obtain ⟨inside, _⟩ := List.getElem?_eq_some_iff.mp found
            rw [visited_of_failed found unwatched executed, List.length_singleton]
            omega

end Termination

section Truncation

theorem executions_room {other : Int64} {machine last : Machine} {fuel : Nat}
    (left : Room limit room machine)
    (reached : (executions .loopEnd commands other watch fuel machine)[room]? = some last) :
    Room limit 0 last := by
  induction fuel generalizing machine room watch with
  | zero => simp [executions, visited] at reached
  | succ fuel ih =>
      rcases moves_or_ends commands other watch machine with
        ⟨command, later, moved⟩ | ⟨final, halt, ended⟩
      · rw [executions_of_moves moved] at reached
        split at reached
        · rename_i close
          subst close
          cases room with
          | zero =>
              cases reached
              exact left
          | succ room => exact ih (left.spend moved) reached
        · rename_i close
          exact ih (left.keep moved close) reached
      · cases ended with
        | complete outside => simp [executions, visited_of_complete outside] at reached
        | interrupted command cause found raised =>
            simp [executions, visited_of_raised raised] at reached
        | failed _ command error found unwatched executed =>
            rw [executions_of_failed found unwatched executed] at reached
            split at reached
            · cases room with
              | zero =>
                  cases reached
                  exact left
              | succ room => simp at reached
            · simp at reached

/-- The run without a limit, cut off at the close for which there is no room. -/
def cutOff (commands : List Command) (limit : Int64) (watch : Watch) (fuel room : Nat)
    (machine : Machine) : Option (Machine × Halt) :=
  match (executions .loopEnd commands Limits.unbounded watch fuel machine)[room]? with
  | none => machine.run commands.toArray Limits.unbounded watch fuel
  | some last =>
      some ({ last with closes := last.closes + 1 }, .failed (.fault (.loopLimit limit.toInt)))

theorem run_beyond {machine : Machine} (left : Room limit 0 machine)
    (found : commands[machine.pointer]? = some .loopEnd)
    (unwatched : watch.raised machine.asked = none) (fuel : Nat) :
    machine.run commands.toArray limit watch (fuel + 1) =
      some ({ machine with closes := machine.closes + 1 },
        .failed (.fault (.loopLimit limit.toInt))) :=
  run_of_ends (.failed machine _ .loopEnd _ found unwatched (execute_beyond left)) fuel

theorem run_eq_cutOff {machine : Machine} (left : Room limit room machine) (fuel : Nat) :
    machine.run commands.toArray limit watch fuel =
      cutOff commands limit watch fuel room machine := by
  unfold cutOff
  induction fuel generalizing machine room watch with
  | zero => simp [executions, visited, run]
  | succ fuel ih =>
      rcases moves_or_ends commands Limits.unbounded watch machine with
        ⟨command, later, moved⟩ | ⟨final, halt, ended⟩
      · rw [executions_of_moves moved, run_of_moves moved]
        by_cases close : command = .loopEnd
        · subst close
          rw [if_pos rfl]
          cases room with
          -- The first close on the way is already the one too many.
          | zero => exact run_beyond left moved.found moved.unwatched fuel
          | succ room =>
              have limited : Moves commands limit watch machine later .loopEnd :=
                ⟨moved.found, moved.unwatched, (execute_within left _).trans moved.executed⟩
              rw [run_of_moves limited, List.getElem?_cons_succ]
              exact ih (left.spend limited)
        · have limited : Moves commands limit watch machine later command :=
            ⟨moved.found, moved.unwatched,
              (execute_other limit _ machine close).trans moved.executed⟩
          rw [if_neg close, run_of_moves limited]
          exact ih (left.keep limited close)
      · have same := run_of_ends ended fuel
        cases ended with
        | complete outside =>
            rw [same, run_of_ends (.complete machine outside), executions,
              visited_of_complete outside]
            rfl
        | interrupted command cause found raised =>
            rw [same, run_of_ends (.interrupted machine command cause found raised), executions,
              visited_of_raised raised]
            rfl
        | failed _ command error found unwatched executed =>
            rw [executions_of_failed found unwatched executed]
            by_cases close : command = .loopEnd
            · subst close
              rw [if_pos rfl]
              cases room with
              | zero => exact run_beyond left found unwatched fuel
              | succ room =>
                  rw [same]
                  exact run_of_ends (.failed machine final _ error found unwatched
                    ((execute_within left _).trans executed)) fuel
            · rw [if_neg close, same]
              exact run_of_ends (.failed machine final command error found unwatched
                ((execute_other limit _ machine close).trans executed)) fuel

end Truncation

end Machine

namespace Interpreter

def limited (limit : Int64) (interpreter : Interpreter) : Interpreter :=
  { interpreter with loopLimit := limit }

def unlimited (interpreter : Interpreter) : Interpreter :=
  interpreter.limited Limits.unbounded

section Termination

variable (interpreter : Interpreter)

theorem visited_le (nonneg : 0 ≤ interpreter.loopLimit.toInt)
    (below : interpreter.loopLimit.toInt < 0x7FFFFFFFFFFFFFFF) (fuel : Nat) (watch : Watch) :
    (interpreter.visited fuel watch).length ≤
      (interpreter.loopLimit.toInt.toNat + 1) * interpreter.program.length := by
  have left := Machine.start_room nonneg below interpreter.machine.tape interpreter.machine.source
  have length : (commands interpreter.program).length = interpreter.program.length :=
    List.length_map _
  have bound : (interpreter.visited fuel watch).length ≤
      interpreter.loopLimit.toInt.toNat * (commands interpreter.program).length +
        (commands interpreter.program).length := Machine.visited_length_le left fuel
  rwa [length, ← Nat.succ_mul] at bound

theorem run_of_limit (nonneg : 0 ≤ interpreter.loopLimit.toInt)
    (below : interpreter.loopLimit.toInt < 0x7FFFFFFFFFFFFFFF) {fuel : Nat}
    (enough : (interpreter.loopLimit.toInt.toNat + 1) * interpreter.program.length < fuel)
    (watch : Watch) : ∃ report final, interpreter.run fuel watch = some (report, final) := by
  have spare : (interpreter.visited fuel watch).length < fuel :=
    Nat.lt_of_le_of_lt (visited_le interpreter nonneg below fuel watch) enough
  obtain ⟨final, halt, ran⟩ := Machine.run_of_visited_lt spare
  exact ⟨_, _, run_eq_some_iff.mpr ⟨final, halt, ran, rfl, rfl⟩⟩

/-- Under a limit every run halts, whatever the input, and executes at most as many commands as
one walk through the program takes for each close that the limit allows, and one more walk. The
fuel has to be larger than that, for the run to find out that it has come to its end. -/
theorem limited_run_halts (nonneg : 0 ≤ interpreter.loopLimit.toInt)
    (below : interpreter.loopLimit.toInt < 0x7FFFFFFFFFFFFFFF) (watch : Watch) :
    (∀ fuel, (interpreter.visited fuel watch).length ≤
      (interpreter.loopLimit.toInt.toNat + 1) * interpreter.program.length) ∧
    ∀ fuel, (interpreter.loopLimit.toInt.toNat + 1) * interpreter.program.length < fuel →
      ∃ report final, interpreter.run fuel watch = some (report, final) := by
  constructor
  · intro fuel
    exact visited_le interpreter nonneg below fuel watch
  · intro fuel enough
    exact run_of_limit interpreter nonneg below enough watch

/-- Without its limit the loop of `+[,]` goes on as long as the lines are not empty. -/
def readingLoop : Interpreter :=
  ⟨utf8 "+[,]", 2, .start .single (some (.stream (fun _ => ⟨utf8 "a", none⟩) 0))⟩

theorem reading_loop_halts :
    (∀ fuel, (readingLoop.visited fuel .never).length ≤ 12) ∧
      ∃ report final, readingLoop.run 13 .never = some (report, final) := by
  obtain ⟨short, halts⟩ := limited_run_halts readingLoop (by decide) (by decide) .never
  exact ⟨short, halts 13 (by decide)⟩

end Termination

section Truncation

section Cases

variable (interpreter : Interpreter) {limit : Int64} (nonneg : 0 ≤ limit.toInt)
  (below : limit.toInt < 0x7FFFFFFFFFFFFFFF) {fuel : Nat} {watch : Watch}

include nonneg below

theorem run_limited (fuel : Nat) (watch : Watch) :
    interpreter.machine.reset.run (commands interpreter.program).toArray limit watch fuel =
      Machine.cutOff (commands interpreter.program) limit watch fuel limit.toInt.toNat
        interpreter.machine.reset :=
  Machine.run_eq_cutOff
    (Machine.start_room nonneg below interpreter.machine.tape interpreter.machine.source) fuel

theorem yields_within
    (few : (interpreter.unlimited.executions .loopEnd fuel watch)[limit.toInt.toNat]? = none) :
    (interpreter.limited limit).yields fuel watch = interpreter.unlimited.yields fuel watch := by
  have same := run_limited interpreter nonneg below fuel watch
  unfold executions at few
  simp only [unlimited, limited] at few ⊢
  simp only [Machine.cutOff, few] at same
  simp only [yields_eq, same]

theorem yields_beyond {last : Machine}
    (reached : (interpreter.unlimited.executions .loopEnd fuel watch)[limit.toInt.toNat]? = some last) :
    (interpreter.limited limit).yields fuel watch =
      some (⟨[], some (.fault (.loopLimit limit.toInt))⟩,
        { last with closes := last.closes + 1 }) := by
  have same := run_limited interpreter nonneg below fuel watch
  unfold executions at reached
  simp only [unlimited, limited] at reached ⊢
  simp only [Machine.cutOff, reached] at same
  simp only [yields_eq, same]
  rfl

end Cases

/-- A limit cuts a run off at one point and changes nothing before it. A run that does not come
to more closes than the limit is the run without a limit. Otherwise, which is so for every run
that goes on for ever, it stops at the first close too many, with the tape and the input as
they were in front of that close. So a limit that was not exceeded can be raised. -/
theorem limit_cuts_run (interpreter : Interpreter) {limit : Int64} (nonneg : 0 ≤ limit.toInt)
    (below : limit.toInt < 0x7FFFFFFFFFFFFFFF) :
    (∀ fuel, (interpreter.unlimited.executions .loopEnd fuel .never).length ≤ limit.toInt →
      (interpreter.limited limit).yields fuel .never = interpreter.unlimited.yields fuel .never) ∧
    (∀ fuel last,
      (interpreter.unlimited.executions .loopEnd fuel .never)[limit.toInt.toNat]? = some last →
      interpreter.unlimited.StopsAt last ∧
      ∃ final, (interpreter.limited limit).yields fuel .never =
          some (⟨[], some (.fault (.loopLimit limit.toInt))⟩, final) ∧
        final.closes.toInt = limit.toInt + 1 ∧ final.tape = last.tape ∧
        final.source = last.source ∧ final.asked = last.asked) ∧
    (interpreter.unlimited.Diverges → ∃ fuel last,
      (interpreter.unlimited.executions .loopEnd fuel .never)[limit.toInt.toNat]? = some last) ∧
    ∀ more : Int64, limit.toInt ≤ more.toInt → more.toInt < 0x7FFFFFFFFFFFFFFF →
      ∀ fuel result final,
        (interpreter.limited limit).yields fuel .never = some (result, final) →
        result.error ≠ some (.fault (.loopLimit limit.toInt)) →
        (interpreter.limited more).yields fuel .never = some (result, final) := by
  refine ⟨?_, ?_, ?_, ?_⟩
  · intro fuel few
    exact yields_within interpreter nonneg below (List.getElem?_eq_none (by omega))
  · intro fuel last reached
    have beyond : Machine.Room limit 0 last := Machine.executions_room
      (Machine.start_room nonneg below interpreter.machine.tape interpreter.machine.source) reached
    have passed := (List.mem_filter.mp (List.mem_of_getElem? reached)).1
    refine ⟨stopsAt_iff_visited.mpr ⟨fuel, passed⟩, _,
      yields_beyond interpreter nonneg below reached, ?_, rfl, rfl, rfl⟩
    have counted := beyond.counted
    rw [beyond.count_toInt]
    omega
  · intro endless
    -- The limited run halts, so without a close too many the unlimited one would halt as well.
    obtain ⟨fuel, report, final, halted⟩ :
        ∃ fuel report final, (interpreter.limited limit).run fuel .never = some (report, final) :=
      ⟨_, run_of_limit (interpreter.limited limit) nonneg below (Nat.lt_succ_self _) .never⟩
    cases reached : (interpreter.unlimited.executions .loopEnd fuel .never)[limit.toInt.toNat]? with
    | some last => exact ⟨fuel, last, reached⟩
    | none =>
        have same := yields_within interpreter nonneg below reached
        rw [endless, yields, halted] at same
        cases same
  · intro more raised small fuel result final halted calm
    have few : (interpreter.unlimited.executions .loopEnd fuel .never)[limit.toInt.toNat]? = none := by
      apply Option.eq_none_iff_forall_ne_some.mpr
      intro last reached
      rw [yields_beyond interpreter nonneg below reached] at halted
      cases halted
      exact calm rfl
    rw [yields_within interpreter nonneg below few] at halted
    rw [yields_within interpreter (Int.le_trans nonneg raised) small, halted]
    rw [List.getElem?_eq_none_iff] at few ⊢
    omega

/-- The second close of `+[-]]` has no partner. -/
def strayClose : Interpreter :=
  ⟨utf8 "+[-]]", Limits.unbounded, .start .single none⟩

/-- A limit of 1 stops the run at the second close, before it is found to have no partner. -/
theorem limit_cuts_stray_close :
    (strayClose.unlimited.yields 9 .never).map Prod.fst =
        some ⟨[], some (.fault (.unmatchedClose 4))⟩ ∧
      ∃ final, (strayClose.limited 1).yields 9 .never =
          some (⟨[], some (.fault (.loopLimit 1))⟩, final) ∧
        final.closes.toInt = 2 ∧ final.tape.get = 0 := by
  have passed : (strayClose.unlimited.executions .loopEnd 9 .never)[(1 : Int64).toInt.toNat]?.map
      (fun last => last.tape.get) = some 0 := by decide +kernel
  obtain ⟨last, reached, zero⟩ := Option.map_eq_some_iff.mp passed
  obtain ⟨_, final, halted, counted, tape, _⟩ :=
    (limit_cuts_run strayClose (show 0 ≤ (1 : Int64).toInt by decide) (by decide)).2.1 9 last
      reached
  refine ⟨by rfl, final, halted, counted, ?_⟩
  rw [tape]
  exact zero

end Truncation

end Interpreter

end Brainfuck
