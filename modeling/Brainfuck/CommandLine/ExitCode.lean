import Brainfuck.Error.Kind

/-!
Exit codes of the command line. They tell outcomes apart by what an error wraps.
-/

namespace Brainfuck

namespace ExitCode

def ok : Nat := 0
def failure : Nat := 1
def usage : Nat := 2
def malformed : Nat := 3
def loopLimit : Nat := 4

end ExitCode

/-- Asking for help is no failure; then the loop limit, a malformed program and a bad argument
are told apart, in this order. -/
def Error.exitCode (error : Error) : Nat :=
  if error.is .help then ExitCode.ok
  else if (error.fault? Fault.isLoopLimit).isSome then ExitCode.loopLimit
  else if error.is .malformed then ExitCode.malformed
  else if error.is (.category .invalidArgument) then ExitCode.usage
  else ExitCode.failure

def CommandLine.exitCode (outcome : Option Error) : Nat :=
  (outcome.map Error.exitCode).getD ExitCode.ok

end Brainfuck
