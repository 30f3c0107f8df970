import Brainfuck.Proofs.OpenBrackets

/-!
The structure of a source: simple actions and loops in the form of a tree. A source is built
into a tree from its end to its start, and this succeeds exactly for the sources that validation
accepts. Reading the tree from left to right gives the commands back, so nothing is lost in it.
-/

namespace Brainfuck

/-- What a command other than a bracket asks for. Filler asks for nothing. -/
inductive Action where
  | increment
  | decrement
  | left
  | right
  | output
  | input
  | nothing
  deriving DecidableEq, Repr

namespace Action

def command : Action → Command
  | .increment => .increment
  | .decrement => .decrement
  | .left => .left
  | .right => .right
  | .output => .output
  | .input => .input
  | .nothing => .ignore

def ofCommand? : Command → Option Action
  | .increment => some .increment
  | .decrement => some .decrement
  | .left => some .left
  | .right => some .right
  | .output => some .output
  | .input => some .input
  | .ignore => some .nothing
  | .loopStart | .loopEnd => none

theorem ofCommand?_eq_some_iff {command : Command} {action : Action} :
    ofCommand? command = some action ↔ action.command = command := by
  cases command <;> cases action <;> decide

end Action

/-- A sequence of actions and loops. -/
inductive Code where
  | done
  | simple (action : Action) (rest : Code)
  | loop (body rest : Code)
  deriving DecidableEq, Repr

namespace Code

/-- The commands of a tree in the order of a source. -/
def commands : Code → List Command
  | .done => []
  | .simple action rest => action.command :: rest.commands
  | .loop body rest => .loopStart :: (body.commands ++ .loopEnd :: rest.commands)

/-- Put one more command in front. The first tree is what comes next, and those in the list come
after the closing brackets that are still without a partner, one each. -/
def attach? (command : Command) (code : Code) (outer : List Code) : Option (Code × List Code) :=
  match Action.ofCommand? command with
  | some action => some (.simple action code, outer)
  | none =>
      if command = .loopEnd then some (.done, code :: outer)
      else
        match outer with
        | [] => none
        | after :: outer => some (.loop code after, outer)

def build? : List Command → Option (Code × List Code)
  | [] => some (.done, [])
  | command :: rest => (build? rest).bind fun (code, outer) => attach? command code outer

/-- The tree of a source, if every bracket in it has a partner. -/
def parse? (commands : List Command) : Option Code :=
  match build? commands with
  | some (code, []) => some code
  | _ => none

/-- The commands of trees that stand after closing brackets. -/
def closings (outer : List Code) : List Command :=
  outer.flatMap fun code => .loopEnd :: code.commands

theorem attach?_commands {command : Command} {code later : Code} {outer rest : List Code}
    (attached : attach? command code outer = some (later, rest)) :
    later.commands ++ closings rest = command :: (code.commands ++ closings outer) := by
  unfold attach? at attached
  split at attached
  · rename_i action same
    cases attached
    simp [commands, Action.ofCommand?_eq_some_iff.mp same]
  · split at attached
    · rename_i _ stop
      cases attached
      simp [commands, closings, stop]
    · rename_i bracket stop
      have start : command = .loopStart := by
        cases command <;> simp_all [Action.ofCommand?]
      split at attached
      · cases attached
      · cases attached
        simp [commands, closings, start]

theorem build?_commands {source : List Command} {code : Code} {outer : List Code}
    (built : build? source = some (code, outer)) :
    code.commands ++ closings outer = source := by
  induction source generalizing code outer with
  | nil =>
      cases built
      rfl
  | cons command rest ih =>
      obtain ⟨⟨next, after⟩, tail, attached⟩ := Option.bind_eq_some_iff.mp built
      rw [attach?_commands attached, ih tail]

/-- The tree of a source has the commands of the source. -/
theorem parse?_commands {source : List Command} {code : Code} (parsed : parse? source = some code) :
    code.commands = source := by
  unfold parse? at parsed
  split at parsed
  · rename_i built
    cases parsed
    simpa [closings] using build?_commands built
  · cases parsed

/-- The closing brackets of a source that are without a partner in it. -/
def unopened? (source : List Command) : Option Nat :=
  (build? source).map fun built => built.2.length

/-- A scan that comes with open brackets accepts the rest of a source if that has one closing
bracket left over for each of them. -/
theorem scan_eq_none_iff {position : Nat} {opened : List Nat} {source : List Command} :
    Brackets.scan position opened source = none ↔ unopened? source = some opened.length := by
  induction source generalizing position opened with
  | nil => cases opened <;> simp [Brackets.scan, unopened?, build?]
  | cons command rest ih =>
      unfold unopened? at ih ⊢
      cases command with
      | loopStart =>
          rw [Brackets.scan, ih, build?]
          cases build? rest with
          | none => simp
          | some built =>
              obtain ⟨code, outer⟩ := built
              cases outer <;> simp [attach?, Action.ofCommand?]
      | loopEnd =>
          rw [build?]
          cases opened with
          | nil =>
              rw [Brackets.scan]
              cases build? rest <;> simp [attach?, Action.ofCommand?]
          | cons innermost outer =>
              rw [Brackets.scan, ih]
              cases build? rest <;> simp [attach?, Action.ofCommand?]
      | increment | decrement | left | right | output | input | ignore =>
          simp only [Brackets.scan_cons, Brackets.push?, ih, build?]
          cases build? rest <;> simp [attach?, Action.ofCommand?]

/-- Exactly the sources that validation accepts have a tree. -/
theorem validate_eq_none_iff {source : Bytes} :
    Brackets.validate source = none ↔ ∃ code, parse? (Brainfuck.commands source) = some code := by
  rw [Brackets.validate, scan_eq_none_iff]
  unfold unopened? parse?
  cases build? (Brainfuck.commands source) with
  | none => simp
  | some built =>
      obtain ⟨code, outer⟩ := built
      cases outer <;> simp

end Code

end Brainfuck
