import Brainfuck.Service.Create

/-!
The requests of the task service and their answers. Each request is one step from service to
service, except that waiting for an exit takes two: one that finds the ticket of the task, and,
when that is finished, one that looks the exit up.
-/

namespace Brainfuck.Service

inductive Request where
  | create (creation : Creation)
  | start (id : Bytes)
  | delete (id : Bytes)
  | state (id : Bytes)
  | kill (id : Bytes) (signal : Nat)
  | pids (id : Bytes)
  | closeIO (id : Bytes) (stdin : Bool)
  | connect (id : Bytes)
  | wait (id : Bytes)
  | exec
  | resizePty
  | pause
  | resume
  | checkpoint
  | update
  | stats
  | shutdown
  deriving DecidableEq, Repr

structure State where
  id : Bytes
  bundle : Bytes
  pid : UInt32
  status : Status
  stdio : Stdio
  exit : Exit
  deriving DecidableEq, Repr

inductive Reply where
  | done
  | pid (value : UInt32)
  | deleted (pid : UInt32) (exit : Exit)
  | state (value : State)
  | pids (values : List UInt32)
  | connected (pid : UInt32)
  | exited (exit : Exit)
  /-- There is no exit yet; the answer follows when this ticket is finished. -/
  | waiting (ticket : Ticket)
  | stats
  deriving DecidableEq, Repr

abbrev Outcome := Except Error Reply × Service

section Handlers

def start (service : Service) (id : Bytes) : Outcome :=
  match service.get id with
  | .error error => (.error error, service)
  | .ok task =>
      if task.started then
        (.error (.status .failedPrecondition (utf8 "task " ++ id ++ utf8 " already started")), service)
      else
        match service.host.signal task.pid Host.continueSignal with
        | (.error fault, host) =>
            (.error (.labelled (utf8 "resuming init process " ++ Integer.ofInt task.pid)
              fault.toError), { service with host })
        | (.ok (), host) =>
            (.ok (.pid (low task.pid)),
              { service with host, tasks := service.tasks.put id { task with started := true } })

def delete (service : Service) (id : Bytes) : Outcome :=
  match service.get id with
  | .error error => (.error error, service)
  | .ok task =>
      if service.isDone task then
        let files := service.host.files.remove (startScriptPath task.bundle)
        (.ok (.deleted (low task.pid) task.exit),
          { service with tasks := service.tasks.erase id, host := { service.host with files } })
      else
        (.error (.status .failedPrecondition
          (utf8 "init process " ++ Integer.ofInt task.pid ++ utf8 " is not done yet")), service)

def inspect (service : Service) (id : Bytes) (tell : Task → Reply) : Outcome :=
  ((service.get id).map tell, service)

def stateOf (service : Service) (id : Bytes) (task : Task) : State where
  id := id
  bundle := task.bundle
  pid := low task.pid
  status := service.statusOf task
  stdio := task.stdio
  exit := task.exit

/-- The signal that a task gets when another is asked for: no signal stands for the one that
kills, and a task that was never started takes no other. -/
def signalFor (task : Task) (signal : Nat) : Nat :=
  if signal = 0 ∨ !task.started then Host.killSignal else signal

def kill (service : Service) (id : Bytes) (signal : Nat) : Outcome :=
  match service.get id with
  | .error error => (.error error, service)
  | .ok task =>
      if service.isDone task then (.ok .done, service)
      else if 0 < task.pid && service.host.alive task.pid then
        match service.host.signal task.pid (signalFor task signal) with
        | (.error fault, host) =>
            (.error (.labelled
              (utf8 "sending signal " ++ Integer.ofNat (signalFor task signal) ++
                utf8 " to init process") fault.toError), { service with host })
        | (.ok (), host) => (.ok .done, { service with host })
      else (.ok .done, service)

def closeIO (service : Service) (id : Bytes) (stdin : Bool) : Outcome :=
  match service.get id with
  | .error error => (.error error, service)
  | .ok task =>
      if !stdin then (.ok .done, service)
      else
        match task.closer with
        | .nothing => (.ok .done, service)
        | .process pid => (.ok .done, { service with host := service.host.endInput pid })
        | .failing error =>
            (.error (.labelled (utf8 "closing stdin of task " ++ id) error), service)

def ticketOf (service : Service) (id : Bytes) : Except Error Ticket :=
  (service.get id).map Task.ticket

def exitOf (service : Service) (id : Bytes) : Except Error Exit :=
  match service.get id with
  | .error error => .error (.labelled (utf8 "task was removed") error)
  | .ok task => .ok task.exit

def wait (service : Service) (interruption : Option Interruption) (id : Bytes) : Outcome :=
  match service.ticketOf id with
  | .error error => (.error error, service)
  | .ok ticket =>
      if service.finished.contains ticket then ((service.exitOf id).map .exited, service)
      else
        match interruption with
        | some cause => (.error (.interrupted cause), service)
        | none => (.ok (.waiting ticket), service)

end Handlers

def unsupported (name : String) : Error :=
  .status .notImplemented (utf8 (name ++ " (task)"))

def handle (service : Service) (interruption : Option Interruption) : Request → Outcome
  | .create creation =>
      match service.create interruption creation with
      | (.error error, service) => (.error error, service)
      | (.ok pid, service) => (.ok (.pid (low pid)), service)
  | .start id => service.start id
  | .delete id => service.delete id
  | .state id => service.inspect id fun task => .state (service.stateOf id task)
  | .kill id signal => service.kill id signal
  | .pids id => service.inspect id fun task => .pids [low task.pid]
  | .closeIO id stdin => service.closeIO id stdin
  | .connect id => service.inspect id fun task => .connected (low task.pid)
  | .wait id => service.wait interruption id
  | .exec => (.error (unsupported "Exec"), service)
  | .resizePty => (.ok .done, service)
  | .pause => (.error (unsupported "Pause"), service)
  | .resume => (.error (unsupported "Resume"), service)
  | .checkpoint => (.error (unsupported "Checkpoint"), service)
  | .update => (.error (.status .aborted (utf8 "Update (task)")), service)
  | .stats => (.ok .stats, service)
  | .shutdown => (.ok .done, { service with shutdowns := service.shutdowns + 1 })

section Schedule

def settle (fuel : Nat) (service : Service) (ticket : Ticket) : Option Service := do
  let waiter ← service.waiters.find? (·.ticket = ticket)
  let process ← service.host.processes.get? waiter.pid
  let ending ← process.ending? fuel
  { service with host := service.host.finish waiter.pid ending }.collect ticket

/-- Answer a request, and if it waits for an exit, let that happen. Without an answer the
request waits for ever, or the fuel was too little. -/
def serve (fuel : Nat) (service : Service) (interruption : Option Interruption)
    (request : Request) : Option Outcome :=
  match service.handle interruption request, request with
  | (.ok (.waiting ticket), service), .wait id => do
      let service ← service.settle fuel ticket
      return ((service.exitOf id).map .exited, service)
  | outcome, _ => some outcome

end Schedule

end Brainfuck.Service
