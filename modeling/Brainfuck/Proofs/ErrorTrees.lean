import Brainfuck.CommandLine.ExitCode

/-!
Exit codes of error trees. A fault stands for several sentinels, so the tests that choose an exit
code overlap. They are made in an order for which only the leaves count: each leaf has a code of its
own, and a tree has the code that comes first in the order 0, 4, 3, 2, 1 among those of its leaves.
-/

namespace Brainfuck

namespace Error

/-- The causes below an error, from left to right. -/
def leaves : Error → List Leaf
  | .leaf cause => [cause]
  | .labelled _ cause => cause.leaves
  | .joined first second => first.leaves ++ second.leaves

theorem any_iff_leaves (test : Leaf → Bool) (error : Error) :
    error.any test = true ↔ ∃ cause ∈ error.leaves, test cause = true := by
  induction error with
  | leaf cause => simp [any, leaves]
  | labelled label cause ih => exact ih
  | joined first second left right =>
      simp only [any, Bool.or_eq_true, left, right, leaves, List.mem_append]
      constructor
      · rintro (⟨cause, member, passes⟩ | ⟨cause, member, passes⟩)
        · exact ⟨cause, .inl member, passes⟩
        · exact ⟨cause, .inr member, passes⟩
      · rintro ⟨cause, member | member, passes⟩
        · exact .inl ⟨cause, member, passes⟩
        · exact .inr ⟨cause, member, passes⟩

theorem findSome?_iff_leaves {Result : Type} (pick : Leaf → Option Result) (error : Error) :
    (error.findSome? pick).isSome = true ↔ ∃ cause ∈ error.leaves, (pick cause).isSome = true := by
  rw [← any_iff_leaves fun cause => (pick cause).isSome]
  induction error with
  | leaf cause => rfl
  | labelled label cause ih => exact ih
  | joined first second left right =>
      simp only [findSome?, Option.isSome_or, any, Bool.or_eq_true, left, right]

theorem fault?_iff_leaves (test : Fault → Bool) (error : Error) :
    (error.fault? test).isSome = true ↔
      ∃ fault, .fault fault ∈ error.leaves ∧ test fault = true := by
  rw [fault?, findSome?_iff_leaves]
  constructor
  · rintro ⟨cause, member, picked⟩
    cases cause with
    | fault fault => exact ⟨fault, member, by simpa using picked⟩
    | sentinel | status | notConfiguration | plain => cases picked
  · rintro ⟨fault, member, passes⟩
    exact ⟨.fault fault, member, by simp [passes]⟩

end Error

namespace Leaf

/-- The exit code of a cause that stands alone. -/
def code : Leaf → Nat
  | .sentinel .help => 0
  | .fault (.loopLimit _) => 4
  | .fault (.unmatchedClose _) | .fault (.unmatchedOpen _) | .sentinel .malformed => 3
  | .fault (.invalidTapeSize _) | .fault (.invalidLoopLimit _)
  | .sentinel (.category .invalidArgument) | .status .invalidArgument _ => 2
  | _ => 1

/-- The tests of a single cause. They overlap: a loop limit is malformed too, and a bracket
without partner is an invalid argument too. -/
theorem is_iff_code (cause : Leaf) :
    (cause.is .help = true ↔ cause.code = 0) ∧
    (cause.is .malformed = true ↔ cause.code = 3 ∨ cause.code = 4) ∧
    (cause.is (.category .invalidArgument) = true → cause.code = 2 ∨ cause.code = 3) ∧
    (cause.code = 2 → cause.is (.category .invalidArgument) = true) := by
  cases cause with
  | sentinel value =>
      cases value with
      | category value => cases value <;> simp [is, code]
      | malformed | help | endOfInput | interruption => simp [is, code]
  | fault cause => cases cause <;> simp [is, code, Fault.sentinels]
  | status category message => cases category <;> simp [is, code]
  | notConfiguration | plain => simp [is, code]

theorem isLoopLimit_iff_code (fault : Fault) :
    fault.isLoopLimit = true ↔ (Leaf.fault fault).code = 4 := by
  cases fault <;> simp [Fault.isLoopLimit, code]

theorem fault_of_code {cause : Leaf} (limit : cause.code = 4) : ∃ fault, cause = .fault fault := by
  cases cause with
  | fault fault => exact ⟨fault, rfl⟩
  | sentinel value =>
      cases value with
      | category value => cases value <;> simp [code] at limit
      | malformed | help | endOfInput | interruption => simp [code] at limit
  | status category message => cases category <;> simp [code] at limit
  | notConfiguration | plain => simp [code] at limit

end Leaf

namespace Error

/-- Some cause below the error has this code. -/
def Holds (code : Nat) (error : Error) : Prop :=
  ∃ cause ∈ error.leaves, cause.code = code

instance (code : Nat) (error : Error) : Decidable (error.Holds code) :=
  inferInstanceAs (Decidable (∃ cause ∈ error.leaves, cause.code = code))

theorem help_iff_holds (error : Error) : error.is .help = true ↔ error.Holds 0 := by
  rw [is, any_iff_leaves]
  exact exists_congr fun cause => and_congr_right fun _ => cause.is_iff_code.1

theorem loopLimit_iff_holds (error : Error) :
    (error.fault? Fault.isLoopLimit).isSome = true ↔ error.Holds 4 := by
  rw [fault?_iff_leaves]
  constructor
  · rintro ⟨fault, member, limit⟩
    exact ⟨_, member, (Leaf.isLoopLimit_iff_code fault).mp limit⟩
  · rintro ⟨cause, member, limit⟩
    obtain ⟨fault, rfl⟩ := Leaf.fault_of_code limit
    exact ⟨fault, member, (Leaf.isLoopLimit_iff_code fault).mpr limit⟩

theorem malformed_iff_holds {error : Error} (unlimited : ¬ error.Holds 4) :
    error.is .malformed = true ↔ error.Holds 3 := by
  rw [is, any_iff_leaves]
  constructor
  · rintro ⟨cause, member, malformed⟩
    rcases cause.is_iff_code.2.1.mp malformed with three | four
    · exact ⟨cause, member, three⟩
    · exact absurd ⟨cause, member, four⟩ unlimited
  · rintro ⟨cause, member, three⟩
    exact ⟨cause, member, cause.is_iff_code.2.1.mpr (.inl three)⟩

theorem invalidArgument_iff_holds {error : Error} (formed : ¬ error.Holds 3) :
    error.is (.category .invalidArgument) = true ↔ error.Holds 2 := by
  rw [is, any_iff_leaves]
  constructor
  · rintro ⟨cause, member, invalid⟩
    rcases cause.is_iff_code.2.2.1 invalid with two | three
    · exact ⟨cause, member, two⟩
    · exact absurd ⟨cause, member, three⟩ formed
  · rintro ⟨cause, member, two⟩
    exact ⟨cause, member, cause.is_iff_code.2.2.2 two⟩

theorem exitCode_eq (error : Error) :
    error.exitCode =
      if error.Holds 0 then 0 else if error.Holds 4 then 4
      else if error.Holds 3 then 3 else if error.Holds 2 then 2 else 1 := by
  simp only [exitCode, help_iff_holds, loopLimit_iff_holds]
  by_cases help : error.Holds 0
  · rw [if_pos help, if_pos help]
    rfl
  by_cases limit : error.Holds 4
  · rw [if_neg help, if_pos limit, if_neg help, if_pos limit]
    rfl
  -- Only without a loop limit is malformed what a bracket is, and so on down the chain.
  simp only [help, limit, ↓reduceIte, malformed_iff_holds limit]
  by_cases bracket : error.Holds 3
  · rw [if_pos bracket, if_pos bracket]
    rfl
  · simp only [bracket, ↓reduceIte, invalidArgument_iff_holds bracket]
    rfl

/-- The same causes, nested in another way, in another order and under other labels. -/
inductive Rearranges : Error → Error → Prop where
  | refl (error : Error) : Rearranges error error
  | symm {first second : Error} (back : Rearranges first second) : Rearranges second first
  | trans {first second third : Error} (head : Rearranges first second)
      (tail : Rearranges second third) : Rearranges first third
  | label (label : Bytes) (error : Error) : Rearranges (.labelled label error) error
  | swap (first second : Error) : Rearranges (.joined first second) (.joined second first)
  | regroup (first second third : Error) :
      Rearranges (.joined (.joined first second) third) (.joined first (.joined second third))
  | joined {first second other another : Error} (left : Rearranges first other)
      (right : Rearranges second another) :
      Rearranges (.joined first second) (.joined other another)

theorem Rearranges.leaves_perm {first second : Error} (rearranges : Rearranges first second) :
    first.leaves.Perm second.leaves := by
  induction rearranges with
  | refl error => exact .refl _
  | symm _ ih => exact ih.symm
  | trans _ _ head tail => exact head.trans tail
  | label label error => exact .refl _
  | swap first second => exact List.perm_append_comm
  | regroup first second third => exact .of_eq (List.append_assoc ..)
  | joined _ _ left right => exact left.append right

theorem exitCode_of_leaves {first second : Error}
    (same : ∀ cause, cause ∈ first.leaves ↔ cause ∈ second.leaves) :
    first.exitCode = second.exitCode := by
  have holds (code : Nat) : first.Holds code ↔ second.Holds code :=
    exists_congr fun cause => and_congr_left fun _ => same cause
  simp only [exitCode_eq, holds]

end Error

namespace CommandLine

open Error

/-- The exit code of an error is read off its leaves, by one order of importance. How they are
nested, in which order they stand and what labels are put around them makes no difference. -/
theorem exit_code_read_off_leaves (error : Error) :
    (exitCode (some error) =
      if ∃ cause ∈ error.leaves, cause.code = 0 then 0
      else if ∃ cause ∈ error.leaves, cause.code = 4 then 4
      else if ∃ cause ∈ error.leaves, cause.code = 3 then 3
      else if ∃ cause ∈ error.leaves, cause.code = 2 then 2
      else 1) ∧
    (∀ other : Error, (∀ cause, cause ∈ error.leaves ↔ cause ∈ other.leaves) →
      exitCode (some error) = exitCode (some other)) ∧
    ∀ other, Rearranges error other → exitCode (some error) = exitCode (some other) := by
  refine ⟨exitCode_eq error, ?_, ?_⟩
  · intro other same
    exact exitCode_of_leaves same
  · intro other rearranges
    exact exitCode_of_leaves fun cause => rearranges.leaves_perm.mem_iff

/-- A bracket, a bad argument and a loop limit, of which the last one decides. -/
def tangled : Error :=
  .joined (.labelled (utf8 "first") (.fault (.unmatchedOpen 2)))
    (.joined (.category .invalidArgument) (.fault (.loopLimit 3)))

def untangled : Error :=
  .labelled (utf8 "all")
    (.joined (.joined (.fault (.loopLimit 3)) (.category .invalidArgument))
      (.fault (.unmatchedOpen 2)))

theorem tangled_limit_decides :
    Rearranges tangled untangled ∧ exitCode (some tangled) = 4 ∧ exitCode (some untangled) = 4 := by
  have turned : Rearranges tangled untangled :=
    .trans (.swap _ _) (.trans (.joined (.swap _ _) (.label _ _)) (.symm (.label _ _)))
  obtain ⟨code, _, same⟩ := exit_code_read_off_leaves tangled
  have four : exitCode (some tangled) = 4 := code.trans (by decide)
  exact ⟨turned, four, (same untangled turned).symm.trans four⟩

end CommandLine

end Brainfuck
