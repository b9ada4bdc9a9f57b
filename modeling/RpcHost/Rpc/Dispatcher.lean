import RpcHost.Rpc.Envelope
import RpcHost.Product

/-!
# Dispatchers

A dispatcher runs one request at a time. It is an arbitrary state machine: each call may change its
state, and ends in a result, a fault, or a crash that the caller has to survive.
-/

namespace RpcHost
namespace Rpc

open Json

/-- How a call ends. -/
inductive Outcome where
  | result (value : Value)
  | fault (fault : Fault)
  | crash
  deriving DecidableEq, Repr

abbrev Dispatcher (σ : Type) := Request → σ → Outcome × σ

namespace Outcome

/-- The answer to the request with this id. A crash is reported as an internal error. -/
def response (id : Value) : Outcome → Response
  | .result v => .success id v
  | .fault f => .failure id f
  | .crash => .failure id (.internal "Internal error")

end Outcome

/-! ## Methods that stand alone -/

/-- The answer for names that nobody registered. -/
def unknownMethod (_ : Request) : Outcome := .fault .unknownMethod

/-- The answer for methods that are declared and not there yet. -/
def unimplemented (_ : Request) : Outcome := .fault (.internal "Not Implemented")

def buildInfo (_ : Request) : Outcome :=
  .result (.ofMembers [("name", .string Product.name), ("version", .string Product.version)])

def ping (r : Request) : Outcome :=
  .result (.ofMembers [("message", .string "OK"), ("params", r.paramsOrNull)])

def echo (r : Request) : Outcome :=
  .result r.toValue

/-- A method without state. -/
def Dispatcher.pure {σ : Type} (run : Request → Outcome) : Dispatcher σ :=
  fun r s => (run r, s)

end Rpc
end RpcHost
