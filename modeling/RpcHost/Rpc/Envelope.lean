import RpcHost.Json.Printer
import RpcHost.Json.Record

/-!
# Request and response envelopes

The three records of JSON-RPC 2.0: requests, responses and the faults that failed responses carry.
`members` lists the fields in the order in which they are written as text, with an optional field
left out when it is absent. As a value (`toValue`) an envelope has its members in key order.
-/

namespace RpcHost
namespace Rpc

open Json

/-- The protocol version that requests must name and responses carry. -/
def version : String := "2.0"

structure Fault where
  code : Int64
  message : String
  data : Option Value
  deriving DecidableEq, Repr

structure Request where
  jsonrpc : String
  method : String
  params : Option Value
  id : Value
  deriving DecidableEq, Repr

structure Response where
  jsonrpc : String
  id : Value
  result : Option Value
  fault : Option Fault
  deriving DecidableEq, Repr

/-- The member for an optional field, or none. -/
def optionalMember (key : String) : Option Value → List (String × Value)
  | some v => [(key, v)]
  | none => []

/-! ## Faults -/

namespace Fault

def new (code : Int64) (message : String) : Fault := ⟨code, message, none⟩

def withData (f : Fault) (data : Value) : Fault := { f with data := some data }

def parseError : Int64 := -32700
def invalidRequest : Int64 := -32600
def methodNotFound : Int64 := -32601
def invalidParams : Int64 := -32602
def internalError : Int64 := -32603

/-- The text that came in is not JSON. -/
def unreadable : Fault := new parseError "Parse Error"

/-- The value that came in is not a request. -/
def rejected : Fault := new invalidRequest "Invalid Request"

/-- Clients compare this message as it stands. -/
def unknownMethod : Fault := new methodNotFound "Invalid Request"

def badParams (message : String) : Fault := new invalidParams message

def internal (message : String) : Fault := new internalError message

/-- The codes that an application may define for itself. -/
def isServerCode (code : Int64) : Bool :=
  -32099 ≤ code && code ≤ -32000

def server? (code : Int64) (message : String) : Option Fault :=
  if isServerCode code then some (new code message) else none

/-- Code and message in one line. -/
def display (f : Fault) : String :=
  toString f.code.toInt ++ ": " ++ f.message

def members (f : Fault) : List (String × Value) :=
  [("code", .number (.integer f.code.toInt)), ("message", .string f.message)]
    ++ optionalMember "data" f.data

def toValue (f : Fault) : Value := .ofMembers f.members

def text (f : Fault) : String := (Value.object f.members).render

end Fault

/-! ## Requests -/

namespace Request

def new (method : String) (params : Option Value) (id : Value) : Request :=
  ⟨version, method, params, id⟩

def paramsOrNull (r : Request) : Value := r.params.getD .null

def members (r : Request) : List (String × Value) :=
  [("jsonrpc", .string r.jsonrpc), ("method", .string r.method)]
    ++ optionalMember "params" r.params ++ [("id", r.id)]

def toValue (r : Request) : Value := .ofMembers r.members

def text (r : Request) : String := (Value.object r.members).render

end Request

/-! ## Responses -/

namespace Response

def success (id result : Value) : Response := ⟨version, id, some result, none⟩

def failure (id : Value) (fault : Fault) : Response := ⟨version, id, none, some fault⟩

/-- The response for another id, stamped with the protocol version. -/
def withId (r : Response) (id : Value) : Response := { r with id := id, jsonrpc := version }

def isError (r : Response) : Bool := r.fault.isSome

/-- The members, with the fault written by `fault`. -/
def membersBy (fault : Fault → Value) (r : Response) : List (String × Value) :=
  [("jsonrpc", .string r.jsonrpc), ("id", r.id)]
    ++ optionalMember "result" r.result ++ optionalMember "error" (r.fault.map fault)

def toValue (r : Response) : Value := .ofMembers (r.membersBy Fault.toValue)

def text (r : Response) : String :=
  (Value.object (r.membersBy fun f => .object f.members)).render

end Response
end Rpc
end RpcHost
