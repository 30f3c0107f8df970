import Brainfuck.Host

/-!
The task service: a table of tasks, one process each. When a task is created somebody begins to
wait for its process; the exit is written into the table by that waiter, and nobody else. A task
is done when the ticket it was given is marked as finished, which whoever holds the ticket can
see even after the task has left the table.
-/

namespace Brainfuck

namespace Service

abbrev Ticket := Nat

inductive Closer where
  | nothing
  | process (pid : Pid)
  | failing (error : Error)
  deriving DecidableEq, Repr

/-- The paths of the fifos of a task; an empty one stands for none. -/
structure Stdio where
  stdin : Bytes := []
  stdout : Bytes := []
  stderr : Bytes := []
  deriving DecidableEq, Repr

structure Task where
  pid : Pid
  bundle : Bytes
  stdio : Stdio := {}
  started : Bool := false
  ticket : Ticket
  exitStatus : Int := 0
  exitTime : Option Timestamp := none
  closer : Closer := .nothing
  deriving DecidableEq, Repr

inductive Status where
  | created
  | running
  | stopped
  deriving DecidableEq, Repr

structure Waiter where
  id : Bytes
  pid : Pid
  ticket : Ticket
  deriving DecidableEq, Repr

structure Exit where
  status : UInt32
  time : Option Timestamp
  deriving DecidableEq, Repr

/-- A number modulo 2^32, as requests report it. -/
def low (number : Int) : UInt32 :=
  UInt32.ofInt number

def Task.exit (task : Task) : Exit :=
  ⟨low task.exitStatus, task.exitTime⟩

end Service

structure Service where
  tasks : Table Bytes Service.Task := []
  finished : List Service.Ticket := []
  waiters : List Service.Waiter := []
  nextTicket : Service.Ticket := 0
  shutdowns : Nat := 0
  host : Host

namespace Service

section Tasks

def isDone (service : Service) (task : Task) : Bool :=
  service.finished.contains task.ticket

def statusOf (service : Service) (task : Task) : Status :=
  if service.isDone task then .stopped else if task.started then .running else .created

def missing (id : Bytes) : Error :=
  .labelled (utf8 "task " ++ id ++ utf8 " not created") (.category .notFound)

def get (service : Service) (id : Bytes) : Except Error Task :=
  match service.tasks.get? id with
  | none => .error (missing id)
  | some task => .ok task

def ids (service : Service) : List Bytes :=
  service.tasks.keys.mergeSort fun first second => first ≤ second

def describe (service : Service) (task : Task) : Bytes :=
  utf8 "pid:" ++ Integer.ofInt task.pid ++
    if service.isDone task then
      utf8 ", exitTime:" ++ (task.exitTime.getD Timestamp.zero).render ++
        utf8 ", exitStatus:" ++ Integer.ofInt task.exitStatus
    else utf8 " running"

/-- Put a task in the table that no process stands behind, with a ticket of its own. -/
def adopt (service : Service) (id : Bytes) (done : Bool) (task : Ticket → Task) : Service :=
  { service with
    tasks := service.tasks.put id (task service.nextTicket)
    nextTicket := service.nextTicket + 1
    finished := if done then service.nextTicket :: service.finished else service.finished }

def drop (service : Service) (id : Bytes) : Service :=
  { service with tasks := service.tasks.erase id }

end Tasks

section Exits

def shutDownIfIdle (service : Service) : Service :=
  if service.tasks.all fun entry => service.isDone entry.2 then
    { service with shutdowns := service.shutdowns + 1 }
  else service

/-- The number that is written down for an end: the exit code, or 128 more than the number of the
signal. An end that tells neither is written down as 255. -/
def exitStatus : Host.Ending → Int
  | .exited code => code
  | .signaled signal => Host.signalStatus + signal
  | .unknown => 255

/-- What a waiter does once its process has exited: it writes the exit into the task under its
id, marks its own ticket as finished, and looks whether any task is left to wait for. -/
def record (service : Service) (waiter : Waiter) (ending : Host.Ending) : Service :=
  let service :=
    { service with
      waiters := service.waiters.erase waiter
      finished := waiter.ticket :: service.finished }
  match service.tasks.get? waiter.id with
  | none => service
  | some task =>
      shutDownIfIdle
        { service with
          tasks := service.tasks.put waiter.id
            { task with exitStatus := exitStatus ending, exitTime := some service.host.now } }

def collect (service : Service) (ticket : Ticket) : Option Service := do
  let waiter ← service.waiters.find? (·.ticket = ticket)
  let process ← service.host.processes.get? waiter.pid
  match process.phase with
  | .ended ending =>
      some ({ service with host := service.host.reap waiter.pid }.record waiter ending)
  | _ => none

end Exits

end Service

end Brainfuck
