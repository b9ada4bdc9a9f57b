import RpcHost.Http.Message
import RpcHost.Rpc.Processing

/-!
# Routes

`GET /test` answers a fixed text, `POST /rpc` processes the body, and `OPTIONS /rpc` answers what a
browser asks before a call from another site. Methods and paths are compared as they stand.
Cross-origin access concerns the `access-control-allow-*` fields alone.
-/

namespace RpcHost
namespace Http

open Rpc

def rpcPath : String := "/rpc"
def testPath : String := "/test"
def allowedMethods : String := "GET,POST,OPTIONS"

/-- The field that lets every origin see a reply. -/
def anyOrigin (cors : Bool) : List Field :=
  if cors then [.ofText "access-control-allow-origin" "*"] else []

/-- The header names a browser asks for are all granted. -/
def grantedHeaders (cors : Bool) (r : Request) : List Field :=
  if cors then
    (r.values "access-control-request-headers").map fun v => ⟨"access-control-allow-headers", v⟩
  else []

def grantedMethods (cors : Bool) : List Field :=
  if cors then [.ofText "access-control-allow-methods" allowedMethods] else []

def preflight (cors : Bool) (r : Request) : Reply where
  status := .ok
  fields := grantedHeaders cors r ++ grantedMethods cors ++ anyOrigin cors
    ++ [.ofText "allow" allowedMethods, .ofText "content-type" "application/json"]
  body := []

def jsonReply (cors : Bool) (a : Answer) : Reply :=
  match a.envelope.write with
  | .error _ => .plain .serverError "internal error"
  | .ok text => {
      status := a.status
      fields := anyOrigin cors ++ [.ofText "content-type" "application/json"]
      body := Text.utf8 text }

/-- Every answer is written, so no reply is about an internal error. -/
theorem jsonReply_eq (cors : Bool) (a : Answer) :
    jsonReply cors a =
      ⟨a.status, anyOrigin cors ++ [.ofText "content-type" "application/json"],
        Text.utf8 a.envelope.render⟩ := by
  rw [jsonReply, Json.Value.write_eq]

/-- The body of a reply as a value, if it is one. -/
def Reply.json? (reply : Reply) : Option Json.Value :=
  (Json.readBytes reply.body).toOption

variable {σ : Type}

def handle (d : Dispatcher σ) (cors : Bool) (r : Request) (s : σ) : Reply × σ :=
  if r.path = testPath ∧ r.method = "GET" then (.plain .ok "Testing 1,2,3", s)
  else if r.path ≠ rpcPath then (.plain .notFound "not found", s)
  else if r.method = "OPTIONS" then (preflight cors r, s)
  else if r.method = "POST" then
    let (answer, s) := process d r.body s
    (jsonReply cors answer, s)
  else (.plain .badRequest "bad request", s)

/-- The settings of the routes on one line. -/
def displayRoutes (cors : Bool) : String :=
  "RequestHandler \x7b allow_cors: " ++ toString cors ++ ", .. \x7d"

end Http
end RpcHost
