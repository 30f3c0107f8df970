import Brainfuck.Flag
import Brainfuck.Manager

/-!
The manager as a command: flags say what it is about, and the first other argument what to do.
-/

namespace Brainfuck.Manager

namespace Invocation

inductive Setting where
  | space (value : Bytes)
  | id (value : Bytes)
  | debug (on : Bool)
  | info (on : Bool)
  | serving
  deriving DecidableEq, Repr

structure Options where
  space : Bytes := []
  id : Bytes := []
  debug : Bool := false
  info : Bool := false
  deriving DecidableEq, Repr

def Options.set (options : Options) : Setting → Options
  | .space value => { options with space := value }
  | .id value => { options with id := value }
  | .debug on => { options with debug := on }
  | .info on => { options with info := on }
  | .serving => options

def forServing (name description : String) : Flag Setting :=
  ⟨name, .text fun _ => .serving, description, none⟩

def flags (self : String) : List (Flag Setting) :=
  [forServing "address" "grpc address back to main containerd",
    forServing "bundle" "path to the bundle if not workdir",
    ⟨"debug", .switch .debug, "enable debug output in logs", none⟩,
    forServing "debug-socket" "debug socket path to serve",
    ⟨"id", .text .id, "id of the task", none⟩,
    ⟨"info", .switch .info,
      "get the option protobuf from stdin, print the shim info protobuf to stdout, and exit", none⟩,
    ⟨"namespace", .text .space, "namespace that owns the shim", none⟩,
    forServing "publish-binary"
      ("path to publish binary (used for publishing events), but " ++ self ++
        " will ignore this flag, please use the TTRPC_ADDRESS env"),
    forServing "socket" "socket path to serve"]

def Options.parse (self : String) (arguments : List Bytes) :
    Except Flag.Fault (Options × List Bytes) :=
  (Flag.scan (flags self) arguments).map fun (settings, operands) =>
    (settings.foldl Options.set {}, operands)

inductive Failure where
  | misuse (fault : Flag.Fault)
  | failed (error : Error)
  deriving DecidableEq, Repr

/-- A request for help is no failure to whoever asked. -/
def Failure.exitCode : Failure → Nat
  | .misuse .helpRequested => 0
  | .misuse _ => 2
  | .failed _ => 1

inductive Output where
  | info (value : Info)
  | stopped (value : Stopped)
  | nothing
  deriving DecidableEq, Repr

end Invocation

open Invocation in
/-- Carry out an invocation. Information is given whatever else is asked for. -/
def invoke (manager : Manager) (self : String) (host : Host) (arguments : List Bytes) :
    Except Failure Output × Host :=
  match Options.parse self arguments with
  | .error fault => (.error (.misuse fault), host)
  | .ok (options, operands) =>
      if options.info then (.ok (.info manager.info), host)
      else if options.space = [] then
        (.error (.failed (.plain (utf8 "shim namespace cannot be empty"))), host)
      else if operands.head? = some (utf8 "delete") then
        match stop host options.id with
        | (.error error, host) => (.error (.failed error), host)
        | (.ok stopped, host) => (.ok (.stopped stopped), host)
      else (.ok .nothing, host)

def complaint (manager : Manager) (self : String) : Invocation.Failure → Bytes
  | .misuse .helpRequested => Flag.usage self (Invocation.flags self)
  | .misuse fault => fault.message ++ utf8 "\n" ++ Flag.usage self (Invocation.flags self)
  | .failed error => manager.name ++ utf8 ": " ++ error.message

end Brainfuck.Manager
