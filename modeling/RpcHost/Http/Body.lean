import RpcHost.Http.Routes

/-!
# Request bodies as they arrive

A body arrives in frames and ends in one of three ways. It is collected up to a limit; a body within
the limit that ends properly goes to the routes as one piece, so that the frames leave no trace.
-/

namespace RpcHost
namespace Http

open Rpc

inductive BodyEnd where
  | complete
  /-- The connection or the framing broke off. -/
  | broken
  /-- Nothing more came within the time that a client has. -/
  | silent
  deriving DecidableEq, Repr

/-- A body as it arrives. -/
structure Delivery where
  frames : List Bytes
  ending : BodyEnd
  deriving DecidableEq

inductive Collected where
  | body (bytes : Bytes)
  | tooLarge
  | broken
  | silent
  deriving DecidableEq

/-- Frames one after the other. The first frame with which the body outgrows the limit ends it. -/
def collectFrames (limit : Nat) (ending : BodyEnd) : (body : Bytes) → List Bytes → Collected
  | body, [] =>
      match ending with
      | .complete => .body body
      | .broken => .broken
      | .silent => .silent
  | body, frame :: frames =>
      if limit < body.length + frame.length then .tooLarge
      else collectFrames limit ending (body ++ frame) frames

def Delivery.collect (limit : Nat) (d : Delivery) : Collected :=
  collectFrames limit d.ending [] d.frames

variable {σ : Type}

/-- The reply to a request whose body arrives in frames. -/
def respond (d : Dispatcher σ) (cors : Bool) (limit : Nat) (head : Head) (delivery : Delivery)
    (s : σ) : Reply × σ :=
  match delivery.collect limit with
  | .body bytes => handle d cors { head with body := bytes } s
  | .tooLarge => (.plain .payloadTooLarge "payload too large", s)
  | .broken => (.plain .badRequest "bad request", s)
  | .silent => (.plain .requestTimeout "request timeout", s)

end Http
end RpcHost
