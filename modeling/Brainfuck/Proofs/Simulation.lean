import Brainfuck.Proofs.Meaning

/-!
The machine and the meaning of trees simulate each other. A tree is located at a position of a
source, and a machine enters it in front of its first command or, if the tree begins with a
loop, behind the bracket of that loop, where every further round begins.
-/

namespace Brainfuck

section Location

variable {commands : List Command}

/-- The commands of a tree stand at a position. -/
def Code.LocatedAt (commands : List Command) (position : Nat) (code : Code) : Prop :=
  code.commands <+: commands.drop position

theorem prefix_drop_cons {position : Nat} {command : Command} {rest : List Command}
    (located : command :: rest <+: commands.drop position) :
    commands[position]? = some command ∧ rest <+: commands.drop (position + 1) := by
  obtain ⟨after, same⟩ := located
  have next : commands.drop (position + 1) = rest ++ after := by
    rw [← List.tail_drop, ← same]
    rfl
  constructor
  · rw [← List.head?_drop, ← same]
    rfl
  · rw [next]
    exact List.prefix_append rest after

theorem prefix_drop_append {position : Nat} {front back : List Command}
    (located : front ++ back <+: commands.drop position) :
    front <+: commands.drop position ∧ back <+: commands.drop (position + front.length) := by
  obtain ⟨after, same⟩ := located
  constructor
  · rw [← same, List.append_assoc]
    exact List.prefix_append front (back ++ after)
  · rw [← List.drop_drop, ← same, List.append_assoc, List.drop_left]
    exact List.prefix_append back after

theorem Code.locatedAt_simple {position : Nat} {action : Action} {rest : Code}
    (located : (Code.simple action rest).LocatedAt commands position) :
    commands[position]? = some action.command ∧ rest.LocatedAt commands (position + 1) :=
  prefix_drop_cons located

/-- The parts of a loop: its bracket, its body, the bracket behind the body, and the rest. -/
theorem Code.locatedAt_loop {position : Nat} {body rest : Code}
    (located : (Code.loop body rest).LocatedAt commands position) :
    commands[position]? = some .loopStart ∧ body.LocatedAt commands (position + 1) ∧
      commands[position + 1 + body.commands.length]? = some .loopEnd ∧
      rest.LocatedAt commands (position + 1 + body.commands.length + 1) := by
  obtain ⟨start, inner⟩ := prefix_drop_cons located
  obtain ⟨front, back⟩ := prefix_drop_append inner
  obtain ⟨stop, after⟩ := prefix_drop_cons back
  exact ⟨start, front, stop, after⟩

end Location

namespace Machine

variable {commands : List Command} {limit : Int64}

/-- A machine is about to run a tree at a position, with some loops open around it. -/
inductive Enters : Code → Nat → List Nat → Machine → Prop where
  | front {code : Code} {position : Nat} {loops : List Nat} {machine : Machine}
      (pointer : machine.pointer = position) (opened : machine.loops = loops) :
      Enters code position loops machine
  | inside {body rest : Code} {position : Nat} {loops : List Nat} {machine : Machine}
      (pointer : machine.pointer = position + 1) (opened : machine.loops = position :: loops) :
      Enters (.loop body rest) position loops machine

/-- A machine is behind a tree, with the same loops open around it. -/
structure Passes (code : Code) (position : Nat) (loops : List Nat) (machine : Machine) : Prop where
  pointer : machine.pointer = position + code.commands.length
  opened : machine.loops = loops

theorem moves_never {machine next : Machine} {command : Command}
    (found : commands[machine.pointer]? = some command)
    (executed : machine.execute limit command = .next next) :
    Moves commands limit .never machine next command :=
  ⟨found, rfl, executed⟩

/-- The opening bracket of a loop does nothing but open it. -/
theorem enters_loop (limit : Int64) {body rest : Code} {position : Nat} {loops : List Nat} {machine : Machine}
    (located : (Code.loop body rest).LocatedAt commands position)
    (enters : Enters (.loop body rest) position loops machine) :
    ∃ next, next.store = machine.store ∧ next.pointer = position + 1 ∧
      next.loops = position :: loops ∧
      (next = machine ∨ Moves commands limit .never machine next .loopStart) := by
  cases enters with
  | front pointer opened =>
      have found := (Code.locatedAt_loop located).1
      rw [← pointer] at found
      refine ⟨{ machine with
        loops := machine.pointer :: machine.loops, pointer := machine.pointer + 1 },
        rfl, ?_, ?_, .inr (moves_never found rfl)⟩
      · exact congrArg (· + 1) pointer
      · rw [← pointer, ← opened]
  | inside pointer opened => exact ⟨machine, rfl, pointer, opened, .inl rfl⟩

/-- At the closing bracket behind a body: the limit stops the run, the loop is entered again
behind its opening bracket, or it is passed. -/
theorem at_close {body rest : Code} {position : Nat} {loops : List Nat} {machine : Machine}
    (located : (Code.loop body rest).LocatedAt commands position)
    (passed : Passes body (position + 1) (position :: loops) machine) :
    commands[machine.pointer]? = some .loopEnd ∧
      ((∃ final, machine.store.count.Exceeds limit ∧ final.store = machine.store.count ∧
          machine.execute limit .loopEnd = .failed final (.fault (.loopLimit limit.toInt))) ∨
        ¬ machine.store.count.Exceeds limit ∧ ∃ next, next.store = machine.store.count ∧
          Moves commands limit .never machine next .loopEnd ∧
          (machine.tape.get ≠ 0 ∧ Enters (.loop body rest) position loops next ∨
            machine.tape.get = 0 ∧
              Enters rest (position + 1 + body.commands.length + 1) loops next)) := by
  have found := (Code.locatedAt_loop located).2.2.1
  rw [← passed.pointer] at found
  refine ⟨found, ?_⟩
  rcases execute_close limit passed.opened with
    stopped | ⟨within, next, same, executed, control⟩
  · exact .inl stopped
  · refine .inr ⟨within, next, same, moves_never found executed, ?_⟩
    rcases control with ⟨nonzero, pointer, opened⟩ | ⟨zero, pointer, opened⟩
    · exact .inl ⟨nonzero, .inside pointer (opened.trans passed.opened)⟩
    · exact .inr ⟨zero, .front (by rw [pointer, passed.pointer]) opened⟩

theorem passes_simple {action : Action} {rest : Code} {position : Nat} {loops : List Nat}
    {machine : Machine} (passed : Passes rest (position + 1) loops machine) :
    Passes (.simple action rest) position loops machine := by
  refine ⟨?_, passed.opened⟩
  rw [passed.pointer, Code.commands, List.length_cons]
  omega

theorem passes_loop {body rest : Code} {position : Nat} {loops : List Nat} {machine : Machine}
    (passed : Passes rest (position + 1 + body.commands.length + 1) loops machine) :
    Passes (.loop body rest) position loops machine := by
  refine ⟨?_, passed.opened⟩
  rw [passed.pointer, Code.commands, List.length_cons, List.length_append, List.length_cons]
  omega

section MeaningToMachine

/-- The machine runs until a tree is passed, or fails in it with the error. -/
def Follows (commands : List Command) (limit : Int64) (code : Code) (position : Nat)
    (loops : List Nat) (machine : Machine) (after : Store) : Option Error → Prop
  | none => ∃ count later, Steps commands limit .never count machine later ∧
      Passes code position loops later ∧ later.store = after
  | some error => ∃ count last final, Steps commands limit .never count machine last ∧
      Ends commands limit .never last final (.failed error) ∧ final.store = after

theorem follows_of_steps {code whole : Code} {position start : Nat} {loops : List Nat}
    {machine middle : Machine} {after : Store} {ending : Option Error} {count : Nat}
    (path : Steps commands limit .never count machine middle)
    (passes : ∀ {later}, Passes code position loops later → Passes whole start loops later)
    (follows : Follows commands limit code position loops middle after ending) :
    Follows commands limit whole start loops machine after ending := by
  cases ending with
  | none =>
      obtain ⟨more, later, tail, passed, same⟩ := follows
      exact ⟨count + more, later, path.trans tail, passes passed, same⟩
  | some error =>
      obtain ⟨more, last, final, tail, ended, same⟩ := follows
      exact ⟨count + more, last, final, path.trans tail, ended, same⟩

/-- A path from where a loop is entered to where its body begins. -/
theorem steps_to_body {body rest : Code} {position : Nat} {loops : List Nat} {machine : Machine}
    (located : (Code.loop body rest).LocatedAt commands position)
    (enters : Enters (.loop body rest) position loops machine) :
    ∃ count next, Steps commands limit .never count machine next ∧ next.store = machine.store ∧
      Enters body (position + 1) (position :: loops) next := by
  obtain ⟨next, same, pointer, opened, here | moved⟩ := enters_loop limit located enters
  · subst here
    exact ⟨0, next, .refl next, rfl, .front pointer opened⟩
  · exact ⟨1, next, .single moved, same, .front pointer opened⟩

/-- What is followed from the front of a body is followed from where its loop is entered. -/
theorem follows_body {body rest : Code} {position : Nat} {loops : List Nat} {machine : Machine}
    {before after : Store} {ending : Option Error}
    (inner : ∀ {position loops machine}, body.LocatedAt commands position →
      Enters body position loops machine → machine.store = before →
      Follows commands limit body position loops machine after ending)
    (located : (Code.loop body rest).LocatedAt commands position)
    (enters : Enters (.loop body rest) position loops machine) (same : machine.store = before) :
    Follows commands limit body (position + 1) (position :: loops) machine after ending := by
  obtain ⟨count, next, path, kept, front⟩ := steps_to_body located enters
  have follows := inner (Code.locatedAt_loop located).2.1 front (kept.trans same)
  exact follows_of_steps path id follows

/-- By induction on the derivation, for every place where the tree may stand. -/
theorem eval_follows {code : Code} {before after : Store} {ending : Option Error}
    (evaluated : code.Eval limit before after ending) :
    ∀ {position loops machine}, code.LocatedAt commands position →
      Enters code position loops machine → machine.store = before →
      Follows commands limit code position loops machine after ending := by
  induction evaluated with
  | done store =>
      intro position loops machine _ enters same
      cases enters with
      | front pointer opened => exact ⟨0, machine, .refl machine, ⟨pointer, opened⟩, same⟩
  | @simple action rest before middle after ending performed _ ih =>
      intro position loops machine located enters same
      obtain ⟨found, tail⟩ := Code.locatedAt_simple located
      cases enters with
      | front pointer opened =>
          rw [← pointer] at found
          rcases execute_action limit action machine with
            ⟨next, executed, effect, ahead, kept⟩ | ⟨_, _, _, effect⟩
          · rw [same, performed, Prod.mk.injEq] at effect
            have follows := ih tail (.front (by rw [ahead, pointer]) (kept.trans opened))
              effect.1.symm
            exact follows_of_steps (.single (moves_never found executed)) passes_simple follows
          · rw [same, performed] at effect
            cases effect
  | @fails action rest before after error performed =>
      intro position loops machine located enters same
      obtain ⟨found, _⟩ := Code.locatedAt_simple located
      cases enters with
      | front pointer opened =>
          rw [← pointer] at found
          rcases execute_action limit action machine with
            ⟨_, _, effect, _⟩ | ⟨final, _, executed, effect⟩
          · rw [same, performed] at effect
            cases effect
          · rw [same, performed, Prod.mk.injEq, Option.some.injEq] at effect
            obtain ⟨reached, rfl⟩ := effect
            exact ⟨0, machine, final, .refl machine,
              .failed machine final _ _ found rfl executed, reached.symm⟩
  | bodyFails _ ih =>
      intro position loops machine located enters same
      exact follows_body ih located enters same
  | limited _ exceeded ih =>
      intro position loops machine located enters same
      obtain ⟨count, close, path, passed, reached⟩ := follows_body ih located enters same
      obtain ⟨found, ⟨final, _, counted, executed⟩ | ⟨within, _⟩⟩ := at_close located passed
      · exact ⟨count, close, final, path, .failed close final _ _ found rfl executed,
          by rw [counted, reached]⟩
      · rw [reached] at within
        exact absurd exceeded within
  | repeated _ within nonzero _ ihBody ihAgain =>
      intro position loops machine located enters same
      obtain ⟨count, close, path, passed, reached⟩ := follows_body ihBody located enters same
      obtain ⟨_, ⟨_, exceeded, _⟩ | ⟨_, later, counted, moved, control⟩⟩ := at_close located passed
      · rw [reached] at exceeded
        exact absurd exceeded within
      · rcases control with ⟨_, again⟩ | ⟨zero, _⟩
        · -- The close leads behind the opening bracket: the same loop, entered inside.
          have follows := ihAgain located again (by rw [counted, reached])
          exact follows_of_steps (path.trans (.single moved)) id follows
        · rw [← reached] at nonzero
          exact absurd zero nonzero
  | left _ within zero _ ihBody ihRest =>
      intro position loops machine located enters same
      obtain ⟨count, close, path, passed, reached⟩ := follows_body ihBody located enters same
      obtain ⟨_, ⟨_, exceeded, _⟩ | ⟨_, later, counted, moved, control⟩⟩ := at_close located passed
      · rw [reached] at exceeded
        exact absurd exceeded within
      · rcases control with ⟨nonzero, _⟩ | ⟨_, leaves⟩
        · rw [← reached] at zero
          exact absurd zero nonzero
        · have follows := ihRest (Code.locatedAt_loop located).2.2.2 leaves
            (by rw [counted, reached])
          exact follows_of_steps (path.trans (.single moved)) passes_loop follows

end MeaningToMachine

section MachineToMeaning

/-- A halting path comes by the end of a tree that the meaning leads to, or halts in it with
the error that the meaning gives. -/
def Explained (commands : List Command) (limit : Int64) (code : Code) (position : Nat)
    (loops : List Nat) (before : Store) (count : Nat) (last final : Machine) (halt : Halt) : Prop :=
  (∃ rest middle, rest ≤ count ∧ code.Eval limit before middle.store none ∧
      Passes code position loops middle ∧ Steps commands limit .never rest middle last) ∨
    ∃ error, halt = .failed error ∧ code.Eval limit before final.store (some error)

theorem explained_of_next {code next : Code} {position start : Nat} {loops : List Nat}
    {before middle : Store} {count more : Nat} {last final : Machine} {halt : Halt}
    (shorter : count ≤ more)
    (passes : ∀ {later}, Passes next position loops later → Passes code start loops later)
    (evaluates : ∀ {after ending}, next.Eval limit middle after ending →
      code.Eval limit before after ending)
    (explained : Explained commands limit next position loops middle count last final halt) :
    Explained commands limit code start loops before more last final halt := by
  rcases explained with ⟨rest, later, short, evaluated, passed, path⟩ | ⟨error, halted, evaluated⟩
  · exact .inl ⟨rest, later, Nat.le_trans short shorter, evaluates evaluated, passes passed, path⟩
  · exact .inr ⟨error, halted, evaluates evaluated⟩

/-- One round of a loop, given that shorter paths are explained and that the body is. -/
theorem explained_loop {body rest : Code} {position count : Nat} {loops : List Nat}
    {machine last final : Machine} {halt : Halt}
    (shorter : ∀ {fewer}, fewer < count → ∀ {code position loops machine},
      code.LocatedAt commands position → Enters code position loops machine →
      Steps commands limit .never fewer machine last →
      Explained commands limit code position loops machine.store fewer last final halt)
    (located : (Code.loop body rest).LocatedAt commands position)
    (ended : Ends commands limit .never last final halt)
    (inner : Explained commands limit body (position + 1) (position :: loops) machine.store count
      last final halt) :
    Explained commands limit (.loop body rest) position loops machine.store count last final
      halt := by
  rcases inner with ⟨more, close, short, ran, passed, path⟩ | ⟨error, halted, ran⟩
  · obtain ⟨found, ⟨later, exceeded, counted, executed⟩ | ⟨within, next, counted, moved, control⟩⟩ :=
      at_close located passed
    · obtain ⟨rfl, rfl⟩ := steps_of_failed found rfl executed path ended
      exact .inr ⟨_, rfl, counted ▸ .limited ran exceeded⟩
    · obtain ⟨fewer, rfl, tail⟩ := steps_peel moved path ended
      rcases control with ⟨nonzero, again⟩ | ⟨zero, leaves⟩
      · have explained := shorter short located again tail
        rw [counted] at explained
        exact explained_of_next (by omega) id (.repeated ran within nonzero) explained
      · have explained := shorter short (Code.locatedAt_loop located).2.2.2 leaves tail
        rw [counted] at explained
        exact explained_of_next (by omega) passes_loop (.left ran within zero) explained
  · exact .inr ⟨error, halted, .bodyFails ran⟩

/-- By induction on the length of the path, and for paths of one length on the tree: the body of
a loop is met on the same path as the loop, while every further round is met on a shorter one. -/
theorem steps_explained {count : Nat} {last final : Machine} {halt : Halt}
    (ended : Ends commands limit .never last final halt) :
    ∀ {code position loops machine}, code.LocatedAt commands position →
      Enters code position loops machine → Steps commands limit .never count machine last →
      Explained commands limit code position loops machine.store count last final halt := by
  induction count using Nat.strongRecOn with
  | ind count shorter =>
      intro code
      induction code with
      | done =>
          intro position loops machine _ enters path
          cases enters with
          | front pointer opened =>
              exact .inl ⟨count, machine, Nat.le_refl count, .done machine.store,
                ⟨pointer, opened⟩, path⟩
      | simple action rest _ =>
          intro position loops machine located enters path
          obtain ⟨found, tail⟩ := Code.locatedAt_simple located
          cases enters with
          | front pointer opened =>
              rw [← pointer] at found
              rcases execute_action limit action machine with
                ⟨next, executed, effect, ahead, kept⟩ | ⟨later, error, executed, effect⟩
              · obtain ⟨fewer, rfl, more⟩ := steps_peel (moves_never found executed) path ended
                have explained := shorter fewer (Nat.lt_succ_self fewer) tail
                  (.front (by rw [ahead, pointer]) (kept.trans opened)) more
                exact explained_of_next (Nat.le_succ fewer) passes_simple (.simple effect) explained
              · obtain ⟨rfl, rfl⟩ := steps_of_failed found rfl executed path ended
                exact .inr ⟨error, rfl, .fails effect⟩
      | loop body rest ihBody _ =>
          intro position loops machine located enters path
          obtain ⟨next, same, pointer, opened, here | moved⟩ :=
            enters_loop limit located enters
          -- Entered inside, the body is met on this very path. Entered in front, the opening
          -- bracket takes a step, and what is left is shorter.
          · subst here
            have inner := ihBody (Code.locatedAt_loop located).2.1 (.front pointer opened) path
            exact explained_loop (fun short => shorter _ short) located ended inner
          · obtain ⟨fewer, rfl, more⟩ := steps_peel moved path ended
            have explained := shorter fewer (Nat.lt_succ_self fewer) located
              (.inside pointer opened) more
            rw [same] at explained
            exact explained_of_next (Nat.le_succ fewer) id id explained

end MachineToMeaning

end Machine

/-- All that a run leaves behind: what it returns, the tape with its cursor, the number of counted
closes, and the input that was not asked for. -/
structure Aftermath where
  result : Interpreter.Result
  tape : Tape
  closes : Int64
  source : Option LineSource

/-- What is left behind by a store at an ending. -/
def Store.aftermath (store : Store) (ending : Option Error) : Aftermath where
  result := ending.elim ⟨store.written, none⟩ fun error => ⟨[], some error⟩
  tape := store.tape
  closes := store.closes
  source := store.source

/-- A run of an interpreter that nobody stops halts and leaves this behind. -/
def Interpreter.Halts (interpreter : Interpreter) (aftermath : Aftermath) : Prop :=
  ∃ fuel report final, interpreter.run fuel .never = some (report, final) ∧
    aftermath = ⟨report.result, final.machine.tape, final.loopCount, final.machine.source⟩

/-- The meaning of a tree leads from a store to what is left behind. -/
def Code.Yields (limit : Int64) (code : Code) (before : Store) (aftermath : Aftermath) : Prop :=
  ∃ after ending, code.Eval limit before after ending ∧ aftermath = after.aftermath ending

theorem Interpreter.halts_iff {interpreter : Interpreter} {aftermath : Aftermath} :
    interpreter.Halts aftermath ↔
      ∃ count last final halt,
        Machine.Steps (commands interpreter.program) interpreter.loopLimit .never count
          interpreter.machine.reset last ∧
        Machine.Ends (commands interpreter.program) interpreter.loopLimit .never last final halt ∧
        aftermath = final.store.aftermath halt.error? := by
  constructor
  · rintro ⟨fuel, report, final, ran, rfl⟩
    obtain ⟨machine, halt, halted, rfl, rfl⟩ := run_eq_some_iff.mp ran
    obtain ⟨count, last, _, path, ended⟩ := Machine.run_eq_some_iff.mp halted
    refine ⟨count, last, machine, halt, path, ended, ?_⟩
    rw [outcome_eq]
    rfl
  · rintro ⟨count, last, machine, halt, path, ended, rfl⟩
    have halted := Machine.run_eq_some_iff.mpr ⟨count, last, Nat.lt_succ_self count, path, ended⟩
    refine ⟨count + 1, _, _, run_eq_some_iff.mpr ⟨machine, halt, halted, rfl, rfl⟩, ?_⟩
    rw [outcome_eq]
    rfl

/-- A run on an accepted source halts exactly as the meaning of its tree says. -/
theorem Interpreter.halts_iff_yields (interpreter : Interpreter)
    (accepted : Brackets.validate interpreter.program = none) :
    ∃ code, Code.parse? (commands interpreter.program) = some code ∧
      code.commands = commands interpreter.program ∧
      ∀ aftermath, interpreter.Halts aftermath ↔
        code.Yields interpreter.loopLimit
          (.initial interpreter.machine.tape interpreter.machine.source) aftermath := by
  obtain ⟨code, parsed⟩ := Code.validate_eq_none_iff.mp accepted
  have whole := Code.parse?_commands parsed
  refine ⟨code, parsed, whole, fun aftermath => ?_⟩
  have located : code.LocatedAt (commands interpreter.program) 0 := by
    unfold Code.LocatedAt
    rw [whole]
    exact List.prefix_rfl
  have enters : Machine.Enters code 0 [] interpreter.machine.reset := .front rfl rfl
  -- Behind the whole tree there is no command left and no loop open.
  have behind : ∀ {machine : Machine}, machine.Passes code 0 [] →
      (commands interpreter.program)[machine.pointer]? = none ∧ machine.atEnd = .finished := by
    intro machine passed
    constructor
    · rw [passed.pointer, whole, Nat.zero_add]
      exact List.getElem?_eq_none (Nat.le_refl _)
    · unfold Machine.atEnd
      rw [passed.opened]
  rw [halts_iff]
  constructor
  · rintro ⟨count, last, final, halt, path, ended, rfl⟩
    rcases Machine.steps_explained ended located enters path with
      ⟨_, middle, _, evaluated, passed, tail⟩ | ⟨error, rfl, evaluated⟩
    · obtain ⟨outside, finished⟩ := behind passed
      obtain ⟨rfl, rfl⟩ := Machine.steps_of_complete outside tail ended
      rw [finished]
      exact ⟨_, none, evaluated, rfl⟩
    · exact ⟨_, some error, evaluated, rfl⟩
  · rintro ⟨after, ending, evaluated, rfl⟩
    have follows := Machine.eval_follows evaluated located enters rfl
    cases ending with
    | none =>
        obtain ⟨count, later, path, passed, rfl⟩ := follows
        obtain ⟨outside, finished⟩ := behind passed
        refine ⟨count, later, later, _, path, .complete later outside, ?_⟩
        rw [finished]
        rfl
    | some error =>
        obtain ⟨count, last, final, path, ended, rfl⟩ := follows
        exact ⟨count, last, final, _, path, ended, rfl⟩

/-- The second close of `+[[-]],.` is the outer one, which a limit of 1 does not allow any more:
the cell is zero by then and the line is still to be read. -/
theorem limited_outer_loop_yields :
    Brackets.validate (utf8 "+[[-]],.") = none ∧
      ∃ code, Code.parse? (commands (utf8 "+[[-]],.")) = some code ∧
        code.Yields 1 (.initial (.blank 1 (by decide) (by decide)) (some (.listed [utf8 "a"])))
          ⟨⟨[], some (.fault (.loopLimit 1))⟩, .blank 1 (by decide) (by decide), 2,
            some (.listed [utf8 "a"])⟩ := by
  have accepted : Brackets.validate (utf8 "+[[-]],.") = none := by rfl
  obtain ⟨code, parsed, _, agree⟩ := Interpreter.halts_iff_yields
    ⟨utf8 "+[[-]],.", 1, .start (.blank 1 (by decide) (by decide)) (some (.listed [utf8 "a"]))⟩
    accepted
  exact ⟨accepted, code, parsed, (agree _).mp ⟨10, _, _, rfl, rfl⟩⟩

end Brainfuck
