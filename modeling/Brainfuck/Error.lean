import Brainfuck.Error.Fault

/-!
Errors as trees of causes. A leaf is one cause; a label in front of an error and the joining of
two errors keep every cause below them. What an error is depends on its leaves; its text also
shows how they are nested.
-/

namespace Brainfuck

inductive Interruption where
  | canceled
  | deadlineExceeded
  deriving DecidableEq, Repr

inductive Category where
  | aborted
  | alreadyExists
  | failedPrecondition
  | invalidArgument
  | notFound
  | notImplemented
  | resourceExhausted
  deriving DecidableEq, Repr

/-- Causes of which there is only one value each. -/
inductive Sentinel where
  | malformed
  | help
  | endOfInput
  | interruption (cause : Interruption)
  | category (value : Category)
  deriving DecidableEq, Repr

inductive Leaf where
  | sentinel (value : Sentinel)
  | fault (cause : Fault)
  | status (category : Category) (message : Bytes)
  | notConfiguration
  | plain (message : Bytes)
  deriving DecidableEq, Repr

inductive Error where
  | leaf (cause : Leaf)
  | labelled (label : Bytes) (cause : Error)
  | joined (first second : Error)
  deriving DecidableEq, Repr

def Interruption.message : Interruption → Bytes
  | .canceled => utf8 "context canceled"
  | .deadlineExceeded => utf8 "context deadline exceeded"

def Category.message : Category → Bytes
  | .aborted => utf8 "aborted"
  | .alreadyExists => utf8 "already exists"
  | .failedPrecondition => utf8 "failed precondition"
  | .invalidArgument => utf8 "invalid argument"
  | .notFound => utf8 "not found"
  | .notImplemented => utf8 "not implemented"
  | .resourceExhausted => utf8 "resource exhausted"

def Sentinel.message : Sentinel → Bytes
  | .malformed => utf8 "malformed brainfuck program"
  | .help => utf8 "flag: help requested"
  | .endOfInput => utf8 "EOF"
  | .interruption cause => cause.message
  | .category value => value.message

def Fault.sentinels : Fault → List Sentinel
  | .unmatchedClose _ | .unmatchedOpen _ => [.malformed, .category .invalidArgument]
  | .loopLimit _ => [.malformed, .category .resourceExhausted]
  | .invalidTapeSize _ | .invalidLoopLimit _ => [.category .invalidArgument]

namespace Leaf

def message : Leaf → Bytes
  | .sentinel value => value.message
  | .fault cause => cause.message
  | .status _ message => message
  | .notConfiguration => utf8 "invalid JSON"
  | .plain message => message

def is (target : Sentinel) : Leaf → Bool
  | .sentinel value => value = target
  | .fault cause => cause.sentinels.contains target
  | .status category _ => target = .category category
  | .notConfiguration | .plain _ => false

end Leaf

namespace Error

def sentinel (value : Sentinel) : Error :=
  .leaf (.sentinel value)

def fault (cause : Fault) : Error :=
  .leaf (.fault cause)

def category (value : Category) : Error :=
  .leaf (.sentinel (.category value))

def status (category : Category) (message : Bytes) : Error :=
  .leaf (.status category message)

def plain (message : Bytes) : Error :=
  .leaf (.plain message)

def endOfInput : Error :=
  .sentinel .endOfInput

def interrupted (cause : Interruption) : Error :=
  .sentinel (.interruption cause)

/-- The whole text: labels and joined errors are set off by a colon and a space. -/
def message : Error → Bytes
  | .leaf cause => cause.message
  | .labelled label cause => label ++ utf8 ": " ++ cause.message
  | .joined first second => first.message ++ utf8 ": " ++ second.message

def any (test : Leaf → Bool) : Error → Bool
  | .leaf cause => test cause
  | .labelled _ cause => cause.any test
  | .joined first second => first.any test || second.any test

def findSome? {Result : Type} (pick : Leaf → Option Result) : Error → Option Result
  | .leaf cause => pick cause
  | .labelled _ cause => cause.findSome? pick
  | .joined first second => (first.findSome? pick).or (second.findSome? pick)

def is (target : Sentinel) (error : Error) : Bool :=
  error.any (Leaf.is target)

def fault? (test : Fault → Bool) (error : Error) : Option Fault :=
  error.findSome? fun cause =>
    match cause with
    | .fault cause => if test cause then some cause else none
    | _ => none

end Error

end Brainfuck
