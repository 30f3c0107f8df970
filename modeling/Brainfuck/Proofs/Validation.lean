import Brainfuck.Error.Kind
import Brainfuck.Proofs.OpenBrackets
import Brainfuck.Proofs.Runs

/-!
Static validation against execution. A run jumps back any number of times, but at every command
its stack of open loops is what the scan of a source has open there. So a run that comes to its
end, or to a closing bracket without a partner, finds what the scan finds.
-/

namespace Brainfuck

namespace LineSource

/-- A source gives an answer sooner or later, if it is asked often enough. -/
def Serves (source : LineSource) (answer : Answer) : Prop :=
  ∃ count, answer ∈ source.take count

theorem serves_first (source : LineSource) : source.Serves source.next.1 :=
  ⟨1, List.mem_cons_self⟩

theorem serves_of_later {source : LineSource} {answer : Answer}
    (served : source.next.2.Serves answer) : source.Serves answer := by
  obtain ⟨count, member⟩ := served
  exact ⟨count + 1, List.mem_cons_of_mem _ member⟩

end LineSource

namespace Machine

variable {commands : List Command} {limit : Int64} {watch : Watch}

section Alignment

/-- The open loops are the brackets that a scan has open at the pointer. -/
structure Aligned (commands : List Command) (machine : Machine) : Prop where
  inside : machine.pointer ≤ commands.length
  loops : Brackets.opened? (commands.take machine.pointer) = some machine.loops

theorem start_aligned (tape : Tape) (input : Option LineSource) :
    Aligned commands (start tape input) :=
  ⟨Nat.zero_le _, rfl⟩

theorem moves_aligned {machine later : Machine} {command : Command}
    (moved : Moves commands limit watch machine later command)
    (aligned : Aligned commands machine) : Aligned commands later := by
  obtain ⟨inside, _⟩ := List.getElem?_eq_some_iff.mp moved.found
  have here := Brackets.opened?_take_succ moved.found
  rw [aligned.loops, Option.bind_some] at here
  rcases execute_next_control moved.executed with
    ⟨rfl, loops, pointer⟩ | ⟨rfl, innermost, outer, opened, control⟩ | ⟨start, stop, loops, pointer⟩
  · refine ⟨by omega, ?_⟩
    rw [pointer, here, loops]
    rfl
  · rcases control with ⟨loops, pointer⟩ | ⟨loops, pointer⟩
    · -- The way back: the scan had the same brackets open right after the innermost one.
      have scanned := aligned.loops
      rw [opened] at scanned
      obtain ⟨below, found, before⟩ := Brackets.opened?_take_cons scanned
      have after := Brackets.opened?_take_succ found
      rw [before, Option.bind_some] at after
      refine ⟨by omega, ?_⟩
      rw [pointer, after, loops, opened]
      rfl
    · refine ⟨by omega, ?_⟩
      rw [pointer, here, loops, opened]
      rfl
  · refine ⟨by omega, ?_⟩
    rw [pointer, here, loops, Brackets.push?_other start stop]

theorem steps_aligned {count : Nat} {machine later : Machine}
    (path : Steps commands limit watch count machine later)
    (aligned : Aligned commands machine) : Aligned commands later :=
  path.invariant moves_aligned aligned

end Alignment

section Sources

/-- Whatever the source of a machine serves, the source of the run serves. -/
def DrawsFrom (input : Option LineSource) (machine : Machine) : Prop :=
  ∀ current, machine.source = some current →
    ∃ source, input = some source ∧ ∀ answer, current.Serves answer → source.Serves answer

theorem moves_drawsFrom {input : Option LineSource} {machine later : Machine} {command : Command}
    (moved : Moves commands limit watch machine later command)
    (draws : DrawsFrom input machine) : DrawsFrom input later := by
  intro current given
  rcases execute_next_source moved.executed with same | ⟨source, before, taken⟩
  · exact draws current (same ▸ given)
  · obtain ⟨first, origin, served⟩ := draws source before
    rw [taken, Option.some.injEq] at given
    subst given
    exact ⟨first, origin, fun answer later => served answer (LineSource.serves_of_later later)⟩

theorem start_drawsFrom (tape : Tape) (input : Option LineSource) :
    DrawsFrom input (start tape input) :=
  fun current given => ⟨current, given, fun _ served => served⟩

end Sources

/-- The ends of a run that have nothing to do with brackets. -/
inductive Aborted (limit : Int64) (watch : Watch) (input : Option LineSource) : Halt → Prop where
  | interrupted {cause : Interruption} {count asked : Nat}
      (raised : (watch.pass count).raised asked = some cause) :
      Aborted limit watch input (.interrupted cause)
  | limited (bounded : limit ≠ Limits.unbounded) :
      Aborted limit watch input (.failed (.fault (.loopLimit limit.toInt)))
  | unread {source : LineSource} {answer : Answer} {cause : Error}
      (given : input = some source) (served : source.Serves answer)
      (failed : answer.error = some cause) (other : cause.is .endOfInput = false) :
      Aborted limit watch input (.failed (.labelled (utf8 "reading input") cause))

theorem ends_verdict {input : Option LineSource} {count : Nat} {machine final : Machine}
    {halt : Halt} (aligned : Aligned commands machine) (draws : DrawsFrom input machine)
    (ended : Ends commands limit (watch.pass count) machine final halt) :
    halt.error? = (Brackets.scan 0 [] commands).map Error.fault ∨
      Aborted limit watch input halt := by
  cases ended with
  | complete outside =>
      left
      have whole : commands.take machine.pointer = commands :=
        List.take_of_length_le (List.getElem?_eq_none_iff.mp outside)
      have scanned := aligned.loops
      rw [whole] at scanned
      rw [Brackets.scan_of_opened scanned]
      unfold atEnd
      cases machine.loops <;> rfl
  | interrupted command cause found raised => exact .inr (.interrupted raised)
  | failed _ command error found unwatched executed =>
      rcases execute_failed_cases executed with
        ⟨_, current, cause, given, failed, other, rfl⟩ | ⟨_, bounded, _, rfl⟩ | ⟨rfl, empty, rfl⟩
      · obtain ⟨source, origin, served⟩ := draws current given
        exact .inr (.unread origin (served _ current.serves_first) failed other)
      · exact .inr (.limited bounded)
      · left
        have scanned := aligned.loops
        rw [empty] at scanned
        rw [Brackets.scan_of_unmatched found scanned]
        rfl

/-- A run ends with what the scan of its commands says, or is aborted. -/
theorem run_verdict {tape : Tape} {input : Option LineSource} {fuel : Nat} {final : Machine}
    {halt : Halt}
    (halted : (start tape input).run commands.toArray limit watch fuel = some (final, halt)) :
    halt.error? = (Brackets.scan 0 [] commands).map Error.fault ∨
      Aborted limit watch input halt := by
  obtain ⟨count, last, _, path, ended⟩ := run_eq_some_iff.mp halted
  have aligned := steps_aligned path (start_aligned tape input)
  have draws := path.invariant moves_drawsFrom (start_drawsFrom tape input)
  exact ends_verdict aligned draws ended

/-- No end of this sort is a bracket fault. -/
theorem aborted_error {input : Option LineSource} {halt : Halt}
    (aborted : Aborted limit watch input halt) :
    ∃ error, halt.error? = some error ∧
      ∀ fault : Fault, error = .fault fault → fault = .loopLimit limit.toInt := by
  cases aborted with
  | interrupted raised => exact ⟨_, rfl, nofun⟩
  | limited bounded =>
      refine ⟨_, rfl, fun fault same => ?_⟩
      cases same
      rfl
  | unread given served failed other => exact ⟨_, rfl, nofun⟩

end Machine

/-- Whether a fault is about an unmatched bracket. -/
def Fault.isBracket (fault : Fault) : Bool :=
  fault.isUnmatchedClose || fault.isUnmatchedOpen

theorem Limits.check_isBracket {limits : Limits} {fault : Fault}
    (checked : limits.check = some fault) : fault.isBracket = false := by
  unfold Limits.check at checked
  split at checked
  · cases checked
    rfl
  · split at checked <;> cases checked
    rfl

/-- How an execution can end: with the fault of its limits, with what validation says of the
source, or aborted. -/
theorem execute_verdict {fuel : Nat} {watch : Watch} {source : Bytes} {input : Option LineSource}
    {limits : Limits} {result : Interpreter.Result}
    (halted : execute fuel watch source input limits = some result) :
    (∃ fault, limits.check = some fault ∧ result = ⟨[], some (.fault fault)⟩) ∨
      (∃ output, Brackets.validate source = none ∧ result = ⟨output, none⟩) ∨
      (∃ fault, Brackets.validate source = some fault ∧ result = ⟨[], some (.fault fault)⟩) ∨
      ∃ halt error, Machine.Aborted limits.loopLimit watch input halt ∧
        halt.error? = some error ∧ result = ⟨[], some error⟩ := by
  cases checked : limits.check with
  | some fault =>
      rw [execute_of_fault checked, Option.some.injEq] at halted
      exact .inl ⟨fault, rfl, halted.symm⟩
  | none =>
      right
      obtain ⟨tape, same⟩ := execute_of_check checked source input
      rw [same, Option.map_eq_some_iff] at halted
      obtain ⟨⟨machine, halt⟩, ran, rfl⟩ := halted
      simp only [Interpreter.outcome_eq]
      rcases Machine.run_verdict ran with verdict | aborted
      · change halt.error? = (Brackets.validate source).map Error.fault at verdict
        simp only [verdict]
        cases Brackets.validate source with
        | none => exact .inl ⟨_, rfl, rfl⟩
        | some fault => exact .inr (.inl ⟨fault, rfl, rfl⟩)
      · obtain ⟨error, failed, _⟩ := Machine.aborted_error aborted
        refine .inr (.inr ⟨halt, error, aborted, failed, ?_⟩)
        rw [failed, Option.elim_some]

/-- Validation and execution agree on every source: a run that succeeds was accepted, and one
that fails with a bracket fault was refused with that very fault. If nothing else can end the
run, a refused source fails with its fault and in no other way. -/
theorem validate_agrees_with_execute {fuel : Nat} {source : Bytes} {input : Option LineSource}
    {limits : Limits} {result : Interpreter.Result}
    (halted : execute fuel .never source input limits = some result) :
    (result.error = none → Brackets.validate source = none) ∧
    (∀ fault, fault.isBracket → result.error = some (.fault fault) →
      Brackets.validate source = some fault) ∧
    (Brackets.validate source = none →
      ∀ fault, fault.isBracket → result.error ≠ some (.fault fault)) ∧
    (∀ fault, Brackets.validate source = some fault →
      result.error ≠ none ∧
      (limits.check = none → limits.loopLimit = Limits.unbounded →
        (∀ lines ∈ input, ∀ answer, lines.Serves answer →
          ∀ cause ∈ answer.error, cause.is .endOfInput) →
        result = ⟨[], some (.fault fault)⟩)) := by
  rcases execute_verdict halted with ⟨refusal, checked, rfl⟩ | ⟨output, accepted, rfl⟩ |
    ⟨blamed, refused, rfl⟩ | ⟨halt, error, aborted, failed, rfl⟩
  · have other := Limits.check_isBracket checked
    refine ⟨nofun, ?_, ?_, ?_⟩
    · intro fault bracket same
      cases same
      rw [other] at bracket
      cases bracket
    · intro _ fault bracket same
      cases same
      rw [other] at bracket
      cases bracket
    · intro fault _
      refine ⟨nofun, fun passed => ?_⟩
      rw [passed] at checked
      cases checked
  · refine ⟨fun _ => accepted, nofun, fun _ _ _ => nofun, ?_⟩
    intro fault refused
    rw [accepted] at refused
    cases refused
  · refine ⟨nofun, ?_, ?_, ?_⟩
    · intro fault _ same
      cases same
      exact refused
    · intro accepted
      rw [accepted] at refused
      cases refused
    · intro fault same
      rw [refused, Option.some.injEq] at same
      exact ⟨nofun, fun _ _ _ => by rw [same]⟩
  · obtain ⟨_, same, limited⟩ := Machine.aborted_error aborted
    rw [failed, Option.some.injEq] at same
    subst same
    have notBracket : ∀ fault : Fault, fault.isBracket → error ≠ .fault fault := by
      intro fault bracket same
      rw [limited fault same] at bracket
      cases bracket
    refine ⟨nofun, ?_, ?_, ?_⟩
    · intro fault bracket same
      exact absurd (Option.some.inj same) (notBracket fault bracket)
    · intro _ fault bracket same
      exact notBracket fault bracket (Option.some.inj same)
    · intro fault _
      refine ⟨nofun, fun _ unlimited harmless => ?_⟩
      -- Without a limit, a watch and an input error there is nothing left to abort the run.
      cases aborted with
      | interrupted raised => cases raised
      | limited bounded => exact absurd unlimited bounded
      | unread given served broken other =>
          have ended := harmless _ given _ served _ broken
          rw [other] at ended
          cases ended

/-- The outer bracket of `+[[-]` stays open behind a loop that was left. -/
theorem validate_agrees_behind_loop :
    execute 10 .never (utf8 "+[[-]") none ⟨2, -1⟩ = some ⟨[], some (.fault (.unmatchedOpen 1))⟩ ∧
      Brackets.validate (utf8 "+[[-]") = some (.unmatchedOpen 1) := by
  have halted : execute 10 .never (utf8 "+[[-]") none ⟨2, -1⟩ =
      some ⟨[], some (.fault (.unmatchedOpen 1))⟩ := by rfl
  exact ⟨halted, (validate_agrees_with_execute halted).2.1 _ rfl rfl⟩

end Brainfuck
