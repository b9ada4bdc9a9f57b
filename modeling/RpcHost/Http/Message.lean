import RpcHost.Http.Status
import RpcHost.Text.Utf8

/-!
# Requests and replies

A request in the form in which it reaches the routes: a method token, a path, fields whose names are
lower-case tokens, and a body. `Request.make` refuses what is no such request and names the first
part that is at fault.
-/

namespace RpcHost
namespace Http

/-- The characters of tokens. -/
def isTokenChar (c : Char) : Bool :=
  c.isAlphanum ||
    c ∈ ['!', '#', '$', '%', '&', '\'', '*', '+', '-', '.', '^', '_', '\x60', '|', '~']

def isToken (s : String) : Bool :=
  s.toList ≠ [] && s.toList.all isTokenChar

/-- The bytes of field values: no control bytes but the tab. -/
def isValueByte (b : UInt8) : Bool :=
  b = 9 || (32 ≤ b && b ≠ 127)

structure Field where
  name : String
  value : Bytes
  deriving DecidableEq

/-- All of a request that comes before its body. -/
structure Head where
  method : String
  path : String
  fields : List Field
  deriving DecidableEq

structure Request extends Head where
  body : Bytes
  deriving DecidableEq

structure Reply where
  status : Status
  /-- In ascending order of the names. -/
  fields : List Field
  body : Bytes
  deriving DecidableEq

inductive RequestFault where
  | method
  | fieldName
  | fieldValue
  deriving DecidableEq, Repr

def lowerCase (s : String) : String :=
  s.map Char.toLower

def Field.make (name : String) (value : Bytes) : Except RequestFault Field :=
  if !isToken name then .error .fieldName
  else if !value.all isValueByte then .error .fieldValue
  else .ok ⟨lowerCase name, value⟩

def Request.make (method path : String) (fields : List (String × Bytes)) (body : Bytes) :
    Except RequestFault Request := do
  if !isToken method then throw .method
  let fields ← fields.mapM fun f => Field.make f.1 f.2
  return { method, path, fields, body }

/-- All values of the fields with this name, in the order of the request. -/
def Head.values (h : Head) (name : String) : List Bytes :=
  (h.fields.filter (·.name = name)).map (·.value)

def Field.ofText (name value : String) : Field :=
  ⟨name, Text.utf8 value⟩

def Reply.plain (status : Status) (body : String) : Reply :=
  ⟨status, [.ofText "content-type" "text/plain"], Text.utf8 body⟩

end Http
end RpcHost
