import RpcHost.Server.Settings

/-!
# The life of a server

A server is created, runs, is told to stop, and is joined; it never goes back. Telling it to stop
only raises a flag, which every holder of the server or of one of its handles may do at any time.
What the network answers when an address is bound is an input.
-/

namespace RpcHost
namespace Server

open Net

inductive Stage where
  | created
  | running
  | stopping
  | joined
  deriving DecidableEq, Repr

def Stage.label : Stage → String
  | created => "Created"
  | running => "Running"
  | stopping => "Stopping"
  | joined => "Joined"

/-- Why an address cannot be bound. -/
inductive BindFault where
  | unavailable
  | inUse
  | denied
  | nulInName
  | unknownName
  | unansweredName
  deriving DecidableEq, Repr

def BindFault.message : BindFault → String
  | .unavailable => "Cannot assign requested address (os error 99)"
  | .inUse => "Address already in use (os error 98)"
  | .denied => "Permission denied (os error 13)"
  | .nulInName => "file name contained an unexpected NUL byte"
  | .unknownName => "failed to lookup address information: Name or service not known"
  | .unansweredName => "failed to lookup address information: Temporary failure in name resolution"

inductive StartError where
  | alreadyStarted
  | noWorkers
  | unbound (endpoint : String) (fault : BindFault)
  deriving DecidableEq, Repr

namespace StartError

def message : StartError → String
  | alreadyStarted => "server was already started"
  | noWorkers => "worker count must be at least 1"
  | unbound endpoint fault => "failed to bind " ++ endpoint ++ ": " ++ fault.message

/-- The message and its cause, if the server did not fail of itself. -/
def chain (e : StartError) : List String :=
  match e with
  | unbound _ fault => [e.message, fault.message]
  | _ => [e.message]

end StartError

/-- What binding an address comes to. -/
abbrev BindResult := Except BindFault SocketAddress

structure Lifecycle where
  settings : Settings
  stage : Stage := .created
  /-- Where the server listens, once it was started. -/
  address : Option SocketAddress := none
  /-- Whether somebody has told the server to stop. -/
  cancelled : Bool := false
  /-- Whether workers in the background have to be joined. -/
  supervised : Bool := false
  deriving DecidableEq, Repr

namespace Lifecycle

def new (settings : Settings) : Lifecycle := { settings }

/-- The address to serve on. That the server was started before is found out before anything else,
and the number of workers before the address is bound by `bind`. -/
def prepareBy {m : Type → Type} [Monad m] (bind : String → UInt16 → m BindResult) (s : Lifecycle) :
    m (Except StartError SocketAddress) :=
  if s.stage ≠ .created then pure (.error .alreadyStarted)
  else if s.settings.workerCount = 0 then pure (.error .noWorkers)
  else do
    match ← bind s.settings.address s.settings.port with
    | .ok address => return .ok address
    | .error fault => return .error (.unbound s.settings.bindAddress fault)

/-- The same when it is known what binding the address comes to. -/
def prepare (bound : BindResult) (s : Lifecycle) : Except StartError SocketAddress :=
  Id.run (s.prepareBy fun _ _ => pure bound)

/-- Serves in the background at an address. -/
def start (bound : BindResult) (s : Lifecycle) : Except StartError SocketAddress × Lifecycle :=
  match s.prepare bound with
  | .ok address =>
      (.ok address, { s with stage := .running, address := some address, supervised := true })
  | .error e => (.error e, s)

/-- Serves until somebody tells the server to stop. -/
def run (bound : BindResult) (s : Lifecycle) : Except StartError SocketAddress × Lifecycle :=
  match s.prepare bound with
  | .ok address =>
      (.ok address, { s with stage := .joined, address := some address, cancelled := true })
  | .error e => (.error e, s)

/-- Tells the server to stop through a handle, which does not know the stage. -/
def cancel (s : Lifecycle) : Lifecycle :=
  { s with cancelled := true }

def stop (s : Lifecycle) : Lifecycle :=
  { s with cancelled := true, stage := if s.stage = .running then .stopping else s.stage }

/-- Waits for the workers. Nothing comes of it while they have not been told to stop. -/
def join? (s : Lifecycle) : Option Lifecycle :=
  if s.supervised && !s.cancelled then none
  else some { s with stage := .joined, supervised := false }

/-- Giving a server up stops and joins its workers. -/
def drop (s : Lifecycle) : Lifecycle :=
  if s.supervised then { s with cancelled := true, stage := .joined, supervised := false } else s

/-- Whether workers accept connections. -/
def isServing (s : Lifecycle) : Bool :=
  s.supervised && !s.cancelled

end Lifecycle
end Server
end RpcHost
