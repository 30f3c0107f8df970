import Brainfuck.Host
import Brainfuck.PidFile

/-!
The manager of task services: it names the runtime, starts the process that serves tasks, and
stops the process of a task whose service cannot be reached.
-/

namespace Brainfuck

structure Manager where
  name : Bytes
  deriving DecidableEq, Repr

namespace Manager

structure Info where
  name : Bytes
  version : Bytes
  deriving DecidableEq, Repr

def version : Bytes :=
  utf8 "v1.3.0"

def info (manager : Manager) : Info :=
  ⟨manager.name, version⟩

section Stopping

structure Stopped where
  pid : Pid
  exitStatus : Int
  deriving DecidableEq, Repr

def killedStatus : Int :=
  Host.signalStatus + Host.killSignal

/-- Kill the process of a task, if it is still there. Its exit counts as killed anyway. -/
def stop (host : Host) (id : Bytes) : Except Error Stopped × Host :=
  match PidFile.read host.files id with
  | .error error => (.error (.labelled (utf8 "reading pid file") error), host)
  | .ok pid =>
      (.ok ⟨pid.toInt, killedStatus⟩,
        if 0 < pid && host.alive pid.toInt then (host.signal pid.toInt Host.killSignal).2 else host)

end Stopping

section Namespaces

def identifierBound : Nat := 76

def isAlphanumeric (byte : UInt8) : Bool :=
  let code := byte.toNat
  (0x30 ≤ code && code ≤ 0x39) || (0x41 ≤ code && code ≤ 0x5A) || (0x61 ≤ code && code ≤ 0x7A)

def isSeparator (byte : UInt8) : Bool :=
  byte = 0x2E || byte = 0x5F || byte = 0x2D

def isIdentifier : Bytes → Bool
  | [] => false
  | [byte] => isAlphanumeric byte
  | byte :: next :: rest =>
      if isAlphanumeric byte then
        if isSeparator next then isIdentifier rest else isIdentifier (next :: rest)
      else false

def identifierPattern : Bytes :=
  utf8 "^[A-Za-z0-9]+(?:[._-](?:[A-Za-z0-9]+))*$"

def identifierFault? (identifier : Bytes) : Option Error :=
  if identifierBound < identifier.length then
    some (.labelled (utf8 "identifier " ++ Quoted.encode identifier ++
      utf8 " greater than maximum length (" ++ Integer.ofNat identifierBound ++
      utf8 " characters)") (.category .invalidArgument))
  else if isIdentifier identifier then none
  else
    some (.labelled (utf8 "identifier " ++ Quoted.encode identifier ++ utf8 " must match " ++
      identifierPattern) (.category .invalidArgument))

def namespaceFault? (space : Bytes) : Option Error :=
  if space = [] then
    some (.labelled (utf8 "namespace is required") (.category .failedPrecondition))
  else (identifierFault? space).map (.labelled (utf8 "namespace validation"))

end Namespaces

section Starting

structure Sockets where
  directory : Bytes
  refusal : Option Files.Fault := none
  bound : List Bytes := []
  deriving DecidableEq, Repr

structure Launch where
  id : Bytes
  space : Bytes
  address : Bytes
  eventAddress : Bytes
  debug : Bool
  debugging : Bool := false
  deriving DecidableEq, Repr

structure Bootstrap where
  version : Nat
  address : Bytes
  protocol : Bytes
  deriving DecidableEq, Repr

def Launch.arguments (launch : Launch) (self : Bytes) : List Bytes :=
  [self, utf8 "-namespace", launch.space, utf8 "-address", launch.address,
    utf8 "-publish-binary", self] ++
    if launch.debug || launch.debugging then [utf8 "-debug"] else []

def Launch.environment (launch : Launch) : List (String × Bytes) :=
  [("GOMAXPROCS", utf8 "2"), ("MAX_SHIM_VERSION", utf8 "2"),
    ("TTRPC_ADDRESS", launch.eventAddress), ("GRPC_ADDRESS", launch.address),
    ("NAMESPACE", launch.space)]

def Launch.socketSeed (launch : Launch) : Bytes :=
  Path.join ([launch.address, launch.space, launch.id] ++ if launch.debug then [utf8 "debug"] else [])

def Sockets.listen (sockets : Sockets) (path : Bytes) : Except Error Sockets :=
  match sockets.refusal with
  | some fault => .error (.labelled (utf8 "mkdir failed for " ++ path) fault.toError)
  | none =>
      if sockets.bound.contains path then
        .error (.plain (utf8 "listen unix " ++ path ++ utf8 ": bind: address already in use"))
      else .ok { sockets with bound := path :: sockets.bound }

def start (digest : Bytes → Bytes) (files : Files) (sockets : Sockets) (launch : Launch) :
    Except Error (Bootstrap × Sockets) :=
  match files.currentDirectory with
  | .error error => .error (.labelled (utf8 "getting current working directory") error)
  | .ok _ =>
      match namespaceFault? launch.space with
      | some error => .error (.labelled (utf8 "creating shim command") error)
      | none =>
          let path := Path.join [sockets.directory, digest launch.socketSeed]
          match sockets.listen path with
          | .error error => .error (.labelled (utf8 "creating socket") error)
          | .ok sockets => .ok (⟨2, utf8 "unix://" ++ path, utf8 "ttrpc"⟩, sockets)

end Starting

end Manager

end Brainfuck
