import Brainfuck.Error.Kind

/-!
Expectations: checks that pass or fail with a text that says what was expected.
-/

namespace Brainfuck.Expectation

inductive Verdict where
  | passed
  | failed (message : Bytes)
  deriving DecidableEq, Repr

def require (holds : Bool) (message : Bytes) : Verdict :=
  if holds then .passed else .failed message

def unescaped : Bytes → Bytes
  | 0x25 :: 0x25 :: rest => 0x25 :: unescaped rest
  | byte :: rest => byte :: unescaped rest
  | [] => []

def condition (holds : Bool) (message : Bytes) : Verdict :=
  require holds (unescaped message)

class Shown (Value : Type) where
  typeName : String
  shown : Value → Bytes

instance : Shown Int64 where
  typeName := "int"
  shown value := Integer.ofInt value.toInt

instance : Shown Bytes where
  typeName := "string"
  shown value := value

instance : Shown Bool where
  typeName := "bool"
  shown value := utf8 (if value then "true" else "false")

def equal {Value : Type} [DecidableEq Value] [Shown Value] (first second : Value) : Verdict :=
  require (first = second)
    (utf8 "Expected " ++ Shown.shown first ++ utf8 " == " ++ Shown.shown second ++
      utf8 " (" ++ utf8 (Shown.typeName Value) ++ utf8 ")")

/-- The values have the same structure; where they differ is not said here. -/
def same {Value : Type} [BEq Value] (want got : Value) : Verdict :=
  require (want == got) (utf8 "Mismatch (-want +got)")

def shownError (error : Option Error) : Bytes :=
  (error.map Error.message).getD (utf8 "<nil>")

def quotedError (error : Option Error) : Bytes :=
  utf8 "'" ++ shownError error ++ utf8 "'"

def noError (error : Option Error) : Verdict :=
  require error.isNone (utf8 "Expected no error, got " ++ quotedError error)

def someError (error : Option Error) : Verdict :=
  require error.isSome (utf8 "Expected error, got " ++ quotedError error)

/-- Whether an error is or wraps the target. Only sentinels are one value wherever they occur;
any other target is a new object that no error wraps. -/
def wraps (error target : Option Error) : Bool :=
  match error, target with
  | none, none => true
  | some error, some (.leaf (.sentinel value)) => error.is value
  | _, _ => false

def errorIs (error target : Option Error) : Verdict :=
  require (wraps error target)
    (utf8 "Expected error matching " ++ quotedError target ++ utf8 ", got " ++ quotedError error)

inductive FaultSort where
  | unmatchedClose
  | loopLimit
  | invalidTapeSize
  deriving DecidableEq, Repr

namespace FaultSort

def includes : FaultSort → Fault → Bool
  | .unmatchedClose => Fault.isUnmatchedClose
  | .loopLimit => Fault.isLoopLimit
  | .invalidTapeSize => Fault.isInvalidTapeSize

def typeName : FaultSort → String
  | .unmatchedClose => "*bf.UnmatchedCloseError"
  | .loopLimit => "*bf.LoopLimitError"
  | .invalidTapeSize => "*bf.InvalidTapeSizeError"

end FaultSort

def found (error : Option Error) (sort : FaultSort) : Option Fault :=
  error.bind (Error.fault? sort.includes)

def errorAs (error : Option Error) (sort : FaultSort) : Verdict :=
  require (found error sort).isSome
    (utf8 "Expected error of type " ++ utf8 sort.typeName ++ utf8 ", got " ++ quotedError error)

end Brainfuck.Expectation
