import RpcHost.Server.Lifecycle

/-!
# Calls on a server

A server is used through itself and through handles, of which any number may be taken at any time.
They share one flag. Some calls wait until somebody has raised it: `Session.perform?` has no result
for a call that would wait for ever.
-/

namespace RpcHost
namespace Server

open Net

/-- How many stages lie before one. -/
def Stage.place : Stage → Nat
  | created => 0
  | running => 1
  | stopping => 2
  | joined => 3

/-- A server and the handles that were taken of it. A handle has nothing of its own, so only their
number is kept. -/
structure Session where
  server : Lifecycle
  handles : Nat := 0
  deriving DecidableEq, Repr

/-- What may be asked of a server or of a handle. The `stopper` of a call that waits is the handle
through which the server is told to stop in the meantime, if that happens. -/
inductive Call where
  | start (bound : BindResult)
  | run (bound : BindResult) (stopper : Option Nat)
  | stop
  | join (stopper : Option Nat)
  | takeHandle
  | stopThrough (handle : Nat)

/-- What a call comes to: an address or an error if it was to serve, and nothing otherwise. -/
abbrev Reply := Option (Except StartError SocketAddress)

/-- The calls that have returned, with what they came to, the latest one last. -/
abbrev History := List (Call × Reply)

namespace Session

def new (settings : Settings) : Session := { server := .new settings }

/-- The handle that is meant, if one is meant, was taken. -/
def holds (s : Session) (stopper : Option Nat) : Bool :=
  stopper.all (· < s.handles)

/-- Whether the server was told to stop, as a handle tells it. -/
def isStopped? (s : Session) (handle : Nat) : Option Bool :=
  if handle < s.handles then some s.server.cancelled else none

/-- What a call comes to and the session after it. There is nothing when the call does not return,
or when it is made with a handle that was not taken. -/
def perform? (s : Session) : Call → Option (Reply × Session)
  | .start bound =>
      let (reply, server) := s.server.start bound
      some (some reply, { s with server })
  | .run bound stopper =>
      if !s.holds stopper then none
      else
        match s.server.run bound with
        | (.error e, server) => some (some (.error e), { s with server })
        | (.ok address, server) =>
            if s.server.cancelled || stopper.isSome then
              some (some (.ok address), { s with server })
            else none
  | .stop => some (none, { s with server := s.server.stop })
  | .join stopper =>
      if !s.holds stopper then none
      else
        let told := if stopper.isSome then s.server.cancel else s.server
        told.join?.map fun server => (none, { s with server })
  | .takeHandle => some (none, { s with handles := s.handles + 1 })
  | .stopThrough handle =>
      if handle < s.handles then some (none, { s with server := s.server.cancel }) else none

/-- Calls one after the other lead from one session to another. -/
inductive Leads (s : Session) : History → Session → Prop where
  | nil : Leads s [] s
  | snoc {history : History} {mid last : Session} {call : Call} {reply : Reply}
      (before : Leads s history mid) (step : mid.perform? call = some (reply, last)) :
      Leads s (history ++ [(call, reply)]) last

end Session

/-! ## What a history tells -/

/-- The addresses at which the server began to serve. -/
def servedAt (history : History) : List SocketAddress :=
  history.filterMap fun entry => entry.2.bind Except.toOption

/-- Whether a call that returned has told the server to stop. -/
def tellsToStop : Call × Reply → Bool
  | (.stop, _) => true
  | (.stopThrough _, _) => true
  | (.run _ stopper, some (.ok _)) => stopper.isSome
  | (.join stopper, _) => stopper.isSome
  | _ => false

end Server
end RpcHost
