/-!
# What carries a connection

A worker does not read and write a connection itself. It leaves that to a carrier, which knows the
protocol and says what may happen on a connection next. `Carrier.Lawful` is what a worker relies on:
one request for each connection, and no end of a connection that still owes an answer.
-/

namespace RpcHost
namespace Server

/-- What happens on a connection. -/
inductive Move where
  /-- Something is read or written, and nothing comes of it yet. -/
  | proceed
  /-- The request is complete and goes to its handler. -/
  | hand
  /-- The answer to the request has been written in full. -/
  | answer
  | close
  /-- The client has broken the connection off. -/
  | breakOff
  deriving DecidableEq, Repr

/-- The connection is over with this move. -/
def Move.isLast : Move → Bool
  | close | breakOff => true
  | _ => false

/-- Carries connections, each of which is in a state of type `κ`. -/
structure Carrier (κ : Type) where
  /-- The state of a connection that was just accepted. -/
  opened : κ
  /-- Whether a move may lead a connection from one state to another. -/
  moves : κ → Move → κ → Bool
  /-- The state of a connection that is told to come to its end. -/
  drain : κ → κ

namespace Carrier

variable {κ : Type}

/-- The moves lead a connection from its beginning to a state, whenever it was told to come to its
end on the way. -/
inductive Reaches (carrier : Carrier κ) : List Move → κ → Prop where
  | opened : Reaches carrier [] carrier.opened
  | moved {moves : List Move} {k k' : κ} {m : Move} (before : Reaches carrier moves k)
      (step : carrier.moves k m k' = true) : Reaches carrier (moves ++ [m]) k'
  | drained {moves : List Move} {k : κ} (before : Reaches carrier moves k) :
      Reaches carrier moves (carrier.drain k)

/-- What a worker relies on. -/
structure Lawful (carrier : Carrier κ) : Prop where
  /-- No connection is kept alive, so each has one request at most. -/
  single : ∀ {moves : List Move} {k k' : κ}, carrier.Reaches moves k →
    carrier.moves k .hand k' = true → .hand ∉ moves
  /-- A request that went to its handler is finished, whenever the connection is told to come to its
  end. -/
  settles : ∀ {before after : List Move} {k k' : κ}, carrier.Reaches (before ++ .hand :: after) k →
    carrier.moves k .close k' = true → .answer ∈ after

end Carrier
end Server
end RpcHost
