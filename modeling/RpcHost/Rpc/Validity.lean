import RpcHost.Rpc.Envelope

/-!
# Which values are requests

A request is an object with no other keys than the four of the envelope, the right version, a string
for the method, and structured params if there are any. The items of a batch are judged one by one.
-/

namespace RpcHost
namespace Rpc

open Json

def requestKeys : List String := ["jsonrpc", "method", "params", "id"]

def isRequest : Value → Bool
  | .object members =>
      (Entries.keys members).all (· ∈ requestKeys)
        && ((Entries.find? "jsonrpc" members).bind Value.asString? == some version)
        && ((Entries.find? "method" members).bind Value.asString?).isSome
        && ((Entries.find? "params" members).all Value.isContainer)
  | _ => false

/-- The id to answer a value with that is no request: its own if that is a scalar other than a
boolean, and `null` otherwise. -/
def echoId (v : Value) : Value :=
  match v.member? "id" with
  | some (.string s) => .string s
  | some (.number n) => .number n
  | _ => .null

end Rpc
end RpcHost
