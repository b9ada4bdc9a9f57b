import RpcHost.Rpc.Decode
import RpcHost.Rpc.Validity
import RpcHost.Rpc.Dispatcher
import RpcHost.Http.Status

/-!
# Processing request bodies

A body is read as JSON. An array is a batch: its items are served one after the other, each from the
state that the one before it left. Anything else is served alone. A body that cannot be read is
answered without calling the dispatcher.
-/

namespace RpcHost
namespace Rpc

open Json Http

/-- Only an unknown method has a status of its own among the faults of a dispatcher. -/
def faultStatus (code : Int64) : Status :=
  if code = Fault.methodNotFound then .notFound else .serverError

def Response.status (r : Response) : Status :=
  match r.fault with
  | some f => faultStatus f.code
  | none => .ok

/-- One served item: its status and its envelope. -/
structure Served where
  status : Status
  response : Response
  deriving DecidableEq, Repr

/-- The answer to a value that is no request. -/
def reject (v : Value) : Served :=
  ⟨.badRequest, .failure (echoId v) .rejected⟩

variable {σ : Type}

def dispatch (d : Dispatcher σ) (r : Request) (s : σ) : Response × σ :=
  let (outcome, s) := d r s
  (outcome.response r.id, s)

def serveOne (d : Dispatcher σ) (v : Value) (s : σ) : Served × σ :=
  if isRequest v then
    match Request.ofValue? v with
    | some r =>
        let (response, s) := dispatch d r s
        (⟨response.status, response⟩, s)
    | none => (reject v, s)
  else (reject v, s)

def serveAll (d : Dispatcher σ) : List Value → σ → List Served × σ
  | [], s => ([], s)
  | v :: vs, s =>
      let (served, s) := serveOne d v s
      let (rest, s) := serveAll d vs s
      (served :: rest, s)

/-- A status and the envelope, or array of envelopes, to send with it. -/
structure Answer where
  status : Status
  envelope : Value
  deriving DecidableEq, Repr

def Answer.single (served : Served) : Answer :=
  ⟨served.status, served.response.toValue⟩

/-- A batch has the worst status of its items, and is fine when it is empty. -/
def Answer.batch (served : List Served) : Answer :=
  ⟨served.foldl (fun worst s => worst.worse s.status) .ok,
    .array (served.map (·.response.toValue))⟩

def Answer.unreadable : Answer :=
  ⟨.serverError, (Response.failure .null .unreadable).toValue⟩

/-- The answer to a body that was read. -/
def answer (d : Dispatcher σ) : Value → σ → Answer × σ
  | .array items, s =>
      let (served, s) := serveAll d items s
      (.batch served, s)
  | v, s =>
      let (served, s) := serveOne d v s
      (.single served, s)

def process (d : Dispatcher σ) (body : Bytes) (s : σ) : Answer × σ :=
  match readBytes body with
  | .ok v => answer d v s
  | .error _ => (.unreadable, s)

end Rpc
end RpcHost
