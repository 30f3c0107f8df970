import Brainfuck.Bundle.Config
import Brainfuck.CommandLine.Run
import Brainfuck.PidFile
import Brainfuck.Timestamp

/-!
The host of the tasks: a tree of files and the processes that run scripts. A process is created
stopped, runs once it is told to continue, and stays known after its end until somebody takes
note of it.
-/

namespace Brainfuck

abbrev Pid := Int

inductive Host.Input where
  | text (content : Bytes)
  /-- Nothing has been written yet, and the end has not come: reading has to wait. -/
  | idle
  deriving DecidableEq, Repr

inductive Host.Ending where
  | exited (code : Int)
  | signaled (signal : Nat)
  /-- Nothing is told, or something that is no end. -/
  | unknown
  deriving DecidableEq, Repr

inductive Host.Phase where
  | stopped
  /-- It runs on the files that were there when it was told to continue. -/
  | running (files : Files)
  | ended (ending : Host.Ending)
  deriving DecidableEq, Repr

structure Host.Process where
  arguments : List Bytes
  directory : Location
  /-- The environment that it was given. Without one it inherits that of the service. -/
  environment : Option (List Bytes)
  input : Host.Input
  phase : Host.Phase
  deriving DecidableEq, Repr

inductive Host.Peer where
  | absent
  | silent
  | writer (content : Bytes)
  deriving DecidableEq, Repr

inductive Host.Stream where
  | stdin
  | stdout
  | stderr
  deriving DecidableEq, Repr

def Host.Stream.name : Host.Stream → String
  | .stdin => "stdin"
  | .stdout => "stdout"
  | .stderr => "stderr"

structure Host.Refusals where
  executable : Option Error := none
  pipe : Host.Stream → Option Error := fun _ => none
  pidFile : PidFile.Refusals := {}

structure Host where
  files : Files
  environment : List Bytes := []
  processes : Table Pid Host.Process := []
  nextPid : Pid := 2
  /-- The other ends of fifos by path, where they are not silent. -/
  peers : Table Bytes Host.Peer := []
  now : Timestamp := 0
  refusals : Host.Refusals := {}
  signals : List (Pid × Nat) := []

namespace Host

def killSignal : Nat := 9
def continueSignal : Nat := 18
def lastSignal : Nat := 64

def signalStatus : Nat := 128

def peer (host : Host) (path : Bytes) : Peer :=
  (host.peers.get? path).getD .silent

section Signals

inductive SignalFault where
  | noProcess
  | invalid
  deriving DecidableEq, Repr

def SignalFault.toError : SignalFault → Error
  | .noProcess => .plain (utf8 "no such process")
  | .invalid => .plain (utf8 "invalid argument")

/-- Whether there is a process with a pid. One that has ended counts until it is noted. -/
def alive (host : Host) (pid : Pid) : Bool :=
  host.processes.contains pid

def Process.receive (files : Files) (signal : Nat) (process : Process) : Process :=
  match process.phase with
  | .ended _ => process
  | .stopped =>
      if signal = killSignal then { process with phase := .ended (.signaled killSignal) }
      else if signal = continueSignal then { process with phase := .running files }
      else process
  | .running _ =>
      if signal = killSignal then { process with phase := .ended (.signaled killSignal) }
      else process

def signal (host : Host) (pid : Pid) (signal : Nat) : Except SignalFault Unit × Host :=
  -- The attempt is noted, whether it succeeds or not.
  let tried := { host with signals := (pid, signal) :: host.signals }
  if !host.alive pid then (.error .noProcess, tried)
  else if lastSignal < signal then (.error .invalid, tried)
  else
    let processes := host.processes.modify pid (Process.receive host.files signal)
    (.ok (), { tried with processes })

end Signals

section Processes

def startDirectory (host : Host) (config : Bundle.Config) : Except Error Location :=
  if config.path.any (·.contains 0) then
    .error (.plain (utf8 "exec: environment variable contains NUL"))
  else
    match host.files.find config.root with
    | .error cause => .error (Files.Fault.toError ⟨"chdir", config.root, cause⟩)
    | .ok (place, .directory) => .ok place
    | .ok _ => .error (Files.Fault.toError ⟨"fork/exec", utf8 "/bin/sh", .notDirectory⟩)

/-- The environment for the process of a configuration: that of the service, and after it the search
path. Without a search path there is nothing to change. -/
def environmentFor (host : Host) (config : Bundle.Config) : Option (List Bytes) :=
  if config.path = [] then none
  else some (host.environment ++ [Bundle.pathMark ++ Bytes.joinWith 0x3A config.path])

def spawn (host : Host) (config : Bundle.Config) (input : Input) : Except Error (Pid × Host) := do
  let directory ← host.startDirectory config
  let process : Process :=
    { arguments := config.arguments
      directory
      environment := host.environmentFor config
      input
      phase := .stopped }
  return (host.nextPid,
    { host with
      processes := host.processes.put host.nextPid process
      nextPid := host.nextPid + 1 })

/-- The end of the input of a process. What was written to it before stays. -/
def Process.endInput (process : Process) : Process :=
  match process.input with
  | .text _ => process
  | .idle => { process with input := .text [] }

def endInput (host : Host) (pid : Pid) : Host :=
  { host with processes := host.processes.modify pid Process.endInput }

def finish (host : Host) (pid : Pid) (ending : Ending) : Host :=
  { host with
    processes := host.processes.modify pid fun process =>
      match process.phase with
      | .ended _ => process
      | _ => { process with phase := .ended ending } }

def reap (host : Host) (pid : Pid) : Host :=
  { host with processes := host.processes.erase pid }

def waiting : Error :=
  .plain (utf8 "waiting for input")

def Input.reader : Input → Reader
  | .text content => .ofText content
  | .idle => ⟨[], waiting⟩

/-- The end to which a process comes by itself, with at most `fuel` commands; a process that has
to wait for its input comes to none. -/
def Process.ending? (fuel : Nat) (process : Process) : Option Ending :=
  match process.phase with
  | .ended ending => some ending
  | .stopped => none
  | .running files => do
      let arguments ← CommandLine.select? process.arguments
      let surroundings : CommandLine.Surroundings :=
        { read := Files.read { files with workingDirectory := process.directory }
          stdin := process.input.reader }
      let report ← CommandLine.run fuel surroundings arguments
      if report.error = some (.labelled (utf8 "reading input") waiting) then none
      else some (.exited report.exitCode)

end Processes

end Host

end Brainfuck
