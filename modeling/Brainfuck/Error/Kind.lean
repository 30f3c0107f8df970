import Brainfuck.Error

/-!
How an error is reported: the one kind it is filed under, and the list of its classes.
-/

namespace Brainfuck

inductive ErrorClass where
  | aborted
  | alreadyExists
  | canceled
  | deadlineExceeded
  | failedPrecondition
  | invalidArgument
  | malformed
  | notFound
  | notImplemented
  | resourceExhausted
  deriving DecidableEq, Repr

namespace ErrorClass

def all : List ErrorClass :=
  [.aborted, .alreadyExists, .canceled, .deadlineExceeded, .failedPrecondition,
    .invalidArgument, .malformed, .notFound, .notImplemented, .resourceExhausted]

def sentinel : ErrorClass → Sentinel
  | .aborted => .category .aborted
  | .alreadyExists => .category .alreadyExists
  | .canceled => .interruption .canceled
  | .deadlineExceeded => .interruption .deadlineExceeded
  | .failedPrecondition => .category .failedPrecondition
  | .invalidArgument => .category .invalidArgument
  | .malformed => .malformed
  | .notFound => .category .notFound
  | .notImplemented => .category .notImplemented
  | .resourceExhausted => .category .resourceExhausted

end ErrorClass

inductive ErrorKind where
  | fault (cause : Fault)
  | help
  | notConfiguration
  | endOfInput
  | ofClass (value : ErrorClass)
  | other
  deriving DecidableEq, Repr

namespace Fault

def isUnmatchedClose : Fault → Bool
  | .unmatchedClose _ => true
  | _ => false

def isUnmatchedOpen : Fault → Bool
  | .unmatchedOpen _ => true
  | _ => false

def isLoopLimit : Fault → Bool
  | .loopLimit _ => true
  | _ => false

def isInvalidTapeSize : Fault → Bool
  | .invalidTapeSize _ => true
  | _ => false

def isInvalidLoopLimit : Fault → Bool
  | .invalidLoopLimit _ => true
  | _ => false

def payload : Fault → Int
  | .unmatchedClose value | .unmatchedOpen value | .loopLimit value
  | .invalidTapeSize value | .invalidLoopLimit value => value

end Fault

namespace Error

def classes (error : Error) : List ErrorClass :=
  ErrorClass.all.filter fun value => error.is value.sentinel

/-- The fault an error is filed under: the first of the first sort that occurs in it. -/
def mainFault? (error : Error) : Option Fault :=
  [Fault.isUnmatchedClose, Fault.isUnmatchedOpen, Fault.isLoopLimit, Fault.isInvalidTapeSize,
    Fault.isInvalidLoopLimit].findSome? error.fault?

/-- A fault comes first, then help, the configuration, the end of input and the classes. -/
def kind (error : Error) : ErrorKind :=
  match error.mainFault? with
  | some cause => .fault cause
  | none =>
      if error.is .help then .help
      else if error.any (· = .notConfiguration) then .notConfiguration
      else if error.is .endOfInput then .endOfInput
      else
        match error.classes with
        | value :: _ => .ofClass value
        | [] => .other

end Error

end Brainfuck
