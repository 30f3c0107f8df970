import Brainfuck.Proofs.Runs
import Brainfuck.Proofs.Structure

/-!
The meaning of a tree, without a pointer and without a stack. A loop runs its body, counts one
close, and is repeated while the cell is not zero, so that the body runs at least once. A run of
the machine on an accepted source halts with an outcome exactly if the meaning of its tree has
that outcome; where one goes on for ever, the other has no outcome either.
-/

namespace Brainfuck

/-- What the actions of a program work on. -/
structure Store where
  tape : Tape
  written : Bytes
  /-- How many closes were counted, in the word that reports them. -/
  closes : Int64
  source : Option LineSource

namespace Store

/-- Nothing done yet, on a tape of zeros. -/
def initial (tape : Tape) (source : Option LineSource) : Store :=
  ⟨tape.reset, [], 0, source⟩

def count (store : Store) : Store :=
  { store with closes := store.closes + 1 }

/-- More closes were counted than a limit allows, if it is one. -/
def Exceeds (limit : Int64) (store : Store) : Prop :=
  limit ≠ Limits.unbounded ∧ limit < store.closes

/-- Write the cell as a character. -/
def write (store : Store) : Store :=
  { store with
    written := store.written ++ String.utf8EncodeChar (Char.ofNat store.tape.get.toNat) }

/-- Read a line into the cell, if there is a source. The line is used up even if it comes with
an error, and only an error that is not the end of the input counts. -/
def read (store : Store) : Store × Option Error :=
  match store.source with
  | none => (store, none)
  | some source =>
      let later := { store with source := some source.next.2 }
      match source.next.1.error.filter fun cause => !cause.is .endOfInput with
      | some cause => (later, some (.labelled (utf8 "reading input") cause))
      | none => ({ later with tape := store.tape.set (firstCharCode source.next.1.line) }, none)

theorem read_of_line {store : Store} {source : LineSource} (given : store.source = some source)
    (harmless : ∀ cause, source.next.1.error = some cause → cause.is .endOfInput = true) :
    store.read =
      ({ store with
          source := some source.next.2
          tape := store.tape.set (firstCharCode source.next.1.line) }, none) := by
  have ignored : (source.next.1.error.filter fun cause => !cause.is .endOfInput) = none := by
    rw [Option.filter_eq_none_iff]
    intro cause failed
    simp [harmless cause failed]
  simp only [read, given, ignored]

theorem read_of_error {store : Store} {source : LineSource} {cause : Error}
    (given : store.source = some source) (failed : source.next.1.error = some cause)
    (other : cause.is .endOfInput = false) :
    store.read =
      ({ store with source := some source.next.2 },
        some (.labelled (utf8 "reading input") cause)) := by
  have kept : (source.next.1.error.filter fun cause => !cause.is .endOfInput) = some cause := by
    rw [failed]
    simp [other]
  simp only [read, given, kept]

end Store

/-- The effect of an action, and the error that it fails with. -/
def Action.perform (store : Store) : Action → Store × Option Error
  | .increment => ({ store with tape := store.tape.increment }, none)
  | .decrement => ({ store with tape := store.tape.decrement }, none)
  | .left => ({ store with tape := store.tape.left }, none)
  | .right => ({ store with tape := store.tape.right }, none)
  | .output => (store.write, none)
  | .input => store.read
  | .nothing => (store, none)

/-- A tree leads from one store to another, to its end or to an error. -/
inductive Code.Eval (limit : Int64) : Code → Store → Store → Option Error → Prop where
  | done (store : Store) : Eval limit .done store store none
  | simple {action : Action} {rest : Code} {before middle after : Store} {ending : Option Error}
      (performed : action.perform before = (middle, none))
      (next : Eval limit rest middle after ending) :
      Eval limit (.simple action rest) before after ending
  | fails {action : Action} {rest : Code} {before after : Store} {error : Error}
      (performed : action.perform before = (after, some error)) :
      Eval limit (.simple action rest) before after (some error)
  | bodyFails {body rest : Code} {before after : Store} {error : Error}
      (ran : Eval limit body before after (some error)) :
      Eval limit (.loop body rest) before after (some error)
  | limited {body rest : Code} {before after : Store} (ran : Eval limit body before after none)
      (exceeded : after.count.Exceeds limit) :
      Eval limit (.loop body rest) before after.count (some (.fault (.loopLimit limit.toInt)))
  | repeated {body rest : Code} {before middle after : Store} {ending : Option Error}
      (ran : Eval limit body before middle none) (within : ¬ middle.count.Exceeds limit)
      (nonzero : middle.tape.get ≠ 0)
      (again : Eval limit (.loop body rest) middle.count after ending) :
      Eval limit (.loop body rest) before after ending
  | left {body rest : Code} {before middle after : Store} {ending : Option Error}
      (ran : Eval limit body before middle none) (within : ¬ middle.count.Exceeds limit)
      (zero : middle.tape.get = 0)
      (next : Eval limit rest middle.count after ending) :
      Eval limit (.loop body rest) before after ending

namespace Machine

/-- The store of a machine. -/
def store (machine : Machine) : Store :=
  ⟨machine.tape, machine.output, machine.closes, machine.source⟩

theorem output_push (machine : Machine) (cell : UInt8) :
    { machine with printed := machine.printed.push cell }.output =
      machine.output ++ String.utf8EncodeChar (Char.ofNat cell.toNat) := by
  simp [output]

section Correspondence

theorem readLine_of_line {machine : Machine} {source : LineSource}
    (given : machine.source = some source)
    (harmless : ∀ cause, source.next.1.error = some cause → cause.is .endOfInput = true) :
    machine.readLine =
      .next { machine with
        source := some source.next.2
        asked := machine.asked + 1
        tape := machine.tape.set (firstCharCode source.next.1.line)
        pointer := machine.pointer + 1 } := by
  simp only [readLine, given, advance]
  cases failed : source.next.1.error with
  | none => rfl
  | some cause => simp only [harmless cause failed, ↓reduceIte]

theorem readLine_of_error {machine : Machine} {source : LineSource} {cause : Error}
    (given : machine.source = some source) (failed : source.next.1.error = some cause)
    (other : cause.is .endOfInput = false) :
    machine.readLine =
      .failed { machine with source := some source.next.2, asked := machine.asked + 1 }
        (.labelled (utf8 "reading input") cause) := by
  simp only [readLine, given, failed, other, Bool.false_eq_true, ↓reduceIte]

/-- The machine executes the command of an action as the action says. -/
theorem execute_action (limit : Int64) (action : Action) (machine : Machine) :
    (∃ next, machine.execute limit action.command = .next next ∧
        action.perform machine.store = (next.store, none) ∧
        next.pointer = machine.pointer + 1 ∧ next.loops = machine.loops) ∨
      ∃ final error, machine.execute limit action.command = .failed final error ∧
        action.perform machine.store = (final.store, some error) := by
  cases action with
  | increment | decrement | left | right | nothing => exact .inl ⟨_, rfl, rfl, rfl, rfl⟩
  | output =>
      refine .inl ⟨_, rfl, ?_, rfl, rfl⟩
      simp only [Action.perform, Store.write, store, Prod.mk.injEq, and_true]
      rw [← output_push]
      rfl
  | input =>
      change (∃ next, machine.readLine = .next next ∧ machine.store.read = (next.store, none) ∧ _) ∨
        ∃ final error, machine.readLine = .failed final error ∧
          machine.store.read = (final.store, some error)
      cases given : machine.source with
      | none =>
          refine .inl ⟨machine.advance, by simp [readLine, given], ?_, rfl, rfl⟩
          simp [Store.read, store, given, advance, output]
      | some source =>
          have same : machine.store.source = some source := given
          by_cases harmless : ∀ cause, source.next.1.error = some cause →
              cause.is .endOfInput = true
          · refine .inl ⟨_, readLine_of_line given harmless, ?_, rfl, rfl⟩
            rw [Store.read_of_line same harmless]
            rfl
          · simp only [Classical.not_forall, Bool.not_eq_true] at harmless
            obtain ⟨cause, failed, other⟩ := harmless
            refine .inr ⟨_, _, readLine_of_error given failed other, ?_⟩
            rw [Store.read_of_error same failed other]
            rfl

/-- What a closing bracket does with a loop open: the limit comes first, then the cell. -/
theorem execute_close (limit : Int64) {machine : Machine} {innermost : Nat} {outer : List Nat}
    (opened : machine.loops = innermost :: outer) :
    (∃ final, machine.store.count.Exceeds limit ∧ final.store = machine.store.count ∧
        machine.execute limit .loopEnd = .failed final (.fault (.loopLimit limit.toInt))) ∨
      ¬ machine.store.count.Exceeds limit ∧ ∃ next, next.store = machine.store.count ∧
        machine.execute limit .loopEnd = .next next ∧
        (machine.tape.get ≠ 0 ∧ next.pointer = innermost + 1 ∧ next.loops = machine.loops ∨
          machine.tape.get = 0 ∧ next.pointer = machine.pointer + 1 ∧ next.loops = outer) := by
  by_cases exceeded : limit ≠ -1 ∧ limit < machine.closes + 1
  · refine .inl ⟨{ machine with closes := machine.closes + 1 }, exceeded, rfl, ?_⟩
    simp only [execute, closeLoop]
    rw [if_pos exceeded]
  · refine .inr ⟨exceeded, ?_⟩
    simp only [execute, closeLoop]
    rw [if_neg exceeded]
    simp only [opened]
    by_cases nonzero : machine.tape.get ≠ 0
    · rw [if_pos nonzero]
      exact ⟨_, rfl, rfl, .inl ⟨nonzero, rfl, rfl⟩⟩
    · rw [if_neg nonzero]
      exact ⟨_, rfl, rfl, .inr ⟨by simpa using nonzero, rfl, rfl⟩⟩

end Correspondence

end Machine

end Brainfuck
