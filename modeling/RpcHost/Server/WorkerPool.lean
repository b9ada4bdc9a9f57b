import RpcHost.Server.Carrier

/-!
# Workers over one queue

Any number of workers take connections from one queue until a flag is raised. A worker begins each
turn by looking at the flag; only a turn that finds it down may accept a connection, which is then
carried to its end before the next turn. A flag that goes up meanwhile has the worker tell its
connection to come to its end. The events of all workers, of the clients and of those who raise the
flag may interleave in any way; `Pool.after?` follows one interleaving.
-/

namespace RpcHost
namespace Server

abbrev Connection := Nat

inductive Worker (κ : Type) where
  /-- Between two turns. -/
  | idle
  /-- In a turn that found the flag down. -/
  | ready
  /-- Whether the connection was told to come to its end is kept, since it is told once. -/
  | serving (connection : Connection) (state : κ) (draining : Bool)
  /-- Out of its loop. -/
  | gone
  deriving DecidableEq, Repr

inductive PoolEvent (κ : Type) where
  /-- A client connects. -/
  | arrive
  /-- Somebody raises the flag. -/
  | stop
  /-- A worker begins a turn and looks at the flag. -/
  | turn (worker : Nat)
  /-- Nothing could be accepted. -/
  | pass (worker : Nat)
  | accept (worker : Nat) (connection : Connection)
  /-- A worker carries its connection on, into a new state. -/
  | move (worker : Nat) (connection : Connection) (move : Move) (state : κ)
  /-- A worker sees the flag up and tells its connection to come to its end. -/
  | drain (worker : Nat) (connection : Connection)
  /-- Whoever waits for the workers, one after the other, finds the next one gone. -/
  | await
  /-- Whoever waits for the workers is done. -/
  | finish
  deriving DecidableEq, Repr

structure Pool (κ : Type) where
  workers : List (Worker κ)
  /-- Connections that nobody has accepted, in the order in which they arrived. -/
  queue : List Connection := []
  /-- How many connections have arrived. -/
  arrived : Nat := 0
  stopped : Bool := false
  /-- How many workers were found gone by whoever waits for them. -/
  awaited : Nat := 0
  deriving DecidableEq, Repr

namespace Pool

variable {κ : Type}

def start (size : Nat) : Pool κ := { workers := List.replicate size .idle }

def setWorker (i : Nat) (w : Worker κ) (p : Pool κ) : Pool κ :=
  { p with workers := p.workers.set i w }

/-- The pool after an event, if the event can happen. -/
def step? (carrier : Carrier κ) (p : Pool κ) : PoolEvent κ → Option (Pool κ)
  | .arrive => some { p with queue := p.queue ++ [p.arrived], arrived := p.arrived + 1 }
  | .stop => some { p with stopped := true }
  | .turn i =>
      match p.workers[i]? with
      | some .idle => some (p.setWorker i (if p.stopped then .gone else .ready))
      | _ => none
  | .pass i =>
      match p.workers[i]? with
      | some .ready => some (p.setWorker i .idle)
      | _ => none
  | .accept i c =>
      match p.workers[i]?, p.queue with
      | some .ready, next :: rest =>
          if next = c then
            some ({ p with queue := rest }.setWorker i (.serving c carrier.opened false))
          else none
      | _, _ => none
  | .move i c m k =>
      match p.workers[i]? with
      | some (.serving served old draining) =>
          if served = c ∧ carrier.moves old m k then
            some (p.setWorker i (if m.isLast then .idle else .serving c k draining))
          else none
      | _ => none
  | .drain i c =>
      match p.workers[i]? with
      | some (.serving served k false) =>
          if served = c ∧ p.stopped then
            some (p.setWorker i (.serving c (carrier.drain k) true))
          else none
      | _ => none
  | .await =>
      match p.workers[p.awaited]? with
      | some .gone => some { p with awaited := p.awaited + 1 }
      | _ => none
  | .finish => if p.awaited = p.workers.length then some p else none

/-- The pool after a sequence of events, if it can happen. -/
def after? (carrier : Carrier κ) (p : Pool κ) (events : List (PoolEvent κ)) : Option (Pool κ) :=
  events.foldlM (step? carrier) p

end Pool

/-! ## What an interleaving tells -/

section Events

variable {κ : Type}

/-- The connections that were accepted, the latest one last. -/
def accepted (events : List (PoolEvent κ)) : List Connection :=
  events.filterMap fun
    | .accept _ c => some c
    | _ => none

/-- The connections whose requests went to their handlers. -/
def handed (events : List (PoolEvent κ)) : List Connection :=
  events.filterMap fun
    | .move _ c .hand _ => some c
    | _ => none

/-- What a worker has seen happen on a connection. -/
def movesOn (i : Nat) (c : Connection) (events : List (PoolEvent κ)) : List Move :=
  events.filterMap fun
    | .move j d m _ => if j = i ∧ d = c then some m else none
    | _ => none

end Events

end Server
end RpcHost
