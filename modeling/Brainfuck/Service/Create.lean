import Brainfuck.Service

/-!
Creating a task: the bundle is read and checked, a start script is written into it, the fifos are
opened, and a stopped process is made. Only then does the task enter the table.
-/

namespace Brainfuck.Service

structure Creation where
  id : Bytes
  bundle : Bytes
  stdio : Stdio := {}
  deriving DecidableEq, Repr

def startScriptName : Bytes :=
  utf8 "start-stopped.sh"

/-- Stops itself, and becomes the command in its arguments once it is continued. -/
def startScript : Bytes :=
  utf8 "#!/bin/sh\nkill -STOP $$\nexec \"$@\"\n"

def startScriptPath (bundle : Bytes) : Bytes :=
  Path.join [bundle, startScriptName]

section Fifos

/-- Open a fifo. Without anybody at the other end this lasts until the request is given up. -/
def openFifo (host : Host) (interruption : Option Interruption) (path : Bytes) :
    Except Error Unit :=
  match host.files.find path with
  | .ok (_, .fifo) =>
      if host.peer path = .absent then
        .error (.labelled (utf8 "opening fifo " ++ path)
          (.interrupted (interruption.getD .canceled)))
      else .ok ()
  | .ok _ | .error .notFound =>
      .error (.labelled (utf8 "file " ++ path ++ utf8 " is not a fifo") (.category .invalidArgument))
  | .error cause =>
      .error (.labelled (utf8 "checking whether file " ++ path ++ utf8 " is a fifo")
        (Files.Fault.toError ⟨"stat", path, cause⟩))

/-- The fifos that are opened for a task, in order. Errors go where output goes, if nothing
else is said. -/
def Stdio.fifos (stdio : Stdio) : List (Host.Stream × Bytes) :=
  [(.stdout, stdio.stdout),
    (.stderr, if stdio.stderr = [] then stdio.stdout else stdio.stderr),
    (.stdin, stdio.stdin)].filter (·.2 ≠ [])

def connectStream (host : Host) (interruption : Option Interruption) (stream : Host.Stream)
    (path : Bytes) : Except Error Unit := do
  openFifo host interruption path
  match host.refusals.pipe stream with
  | none => return ()
  | some error => throw (.labelled (utf8 ("getting " ++ stream.name ++ " pipe")) error)

def connectStreams (host : Host) (interruption : Option Interruption) (stdio : Stdio) :
    Except Error Unit :=
  stdio.fifos.forM fun (stream, path) => connectStream host interruption stream path

def inputOf (host : Host) (stdin : Bytes) : Host.Input :=
  if stdin = [] then .text []
  else
    match host.peer stdin with
    | .writer content => .text content
    | _ => .idle

end Fifos

def enter (service : Service) (creation : Creation) (pid : Pid) : Service :=
  { service with
    tasks := service.tasks.put creation.id
      { pid
        bundle := creation.bundle
        stdio := creation.stdio
        ticket := service.nextTicket
        closer := if creation.stdio.stdin = [] then .nothing else .process pid }
    waiters := ⟨creation.id, pid, service.nextTicket⟩ :: service.waiters
    nextTicket := service.nextTicket + 1 }

def notePid (service : Service) (id : Bytes) (pid : Pid) : Service :=
  -- A task without a pid file is as good, so the error goes unheard.
  let (_, files) := PidFile.write service.host.files service.host.refusals.pidFile
    (utf8 "bf.pid-tmp") id (Int64.ofInt pid)
  { service with host := { service.host with files } }

def launch (service : Service) (interruption : Option Interruption) (creation : Creation)
    (config : Bundle.Config) : Except Error Pid × Service :=
  match service.host.refusals.executable with
  | some error =>
      (.error (.labelled (utf8 "getting executable of current process") error), service)
  | none =>
      match connectStreams service.host interruption creation.stdio with
      | .error error => (.error error, service)
      | .ok () =>
          match service.host.spawn config (inputOf service.host creation.stdio.stdin) with
          | .error error => (.error (.labelled (utf8 "running init command") error), service)
          | .ok (pid, host) =>
              (.ok pid, (enter { service with host } creation pid).notePid creation.id pid)

def create (service : Service) (interruption : Option Interruption) (creation : Creation) :
    Except Error Pid × Service :=
  if service.tasks.contains creation.id then (.error (.category .alreadyExists), service)
  else
    match Bundle.Config.read service.host.files.read creation.bundle with
    | .error error => (.error (.labelled (utf8 "reading config file") error), service)
    | .ok config =>
        match service.host.files.write (startScriptPath creation.bundle) startScript with
        | .error fault =>
            (.error (.labelled (utf8 "writing " ++ startScriptName) fault.toError), service)
        | .ok files =>
            -- The start script stays even if it is not needed in the end.
            launch { service with host := { service.host with files } } interruption creation config

end Brainfuck.Service
