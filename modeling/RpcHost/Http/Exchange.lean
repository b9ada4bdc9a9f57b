import RpcHost.Http.Opening

/-!
# Exchanges

A connection carries one request and at most one reply. What a client sends, and whether it closes
its side afterwards or stays silent, decides what it gets back: nothing at all when it does not
finish the opening, and otherwise a status line, fields and a body.
-/

namespace RpcHost
namespace Http

open Rpc

/-- What a client sends on one connection. -/
structure Sent where
  bytes : Bytes
  /-- Whether the client closes its side, instead of staying silent. -/
  closed : Bool

/-- What the client gets back. -/
structure Received where
  version : Version
  status : Status
  fields : List Field
  body : Bytes
  deriving DecidableEq

def Received.statusLine (r : Received) : String :=
  r.version.text ++ " " ++ toString r.status.code ++ " " ++ r.status.reason

def lineEnd : Bytes := [cr, lf]

/-- The bytes of a reply. -/
def Received.bytes (r : Received) : Bytes :=
  let fieldLine (f : Field) : Bytes := Text.utf8 (f.name ++ ": ") ++ f.value ++ lineEnd
  Text.utf8 r.statusLine ++ lineEnd ++ r.fields.flatMap fieldLine ++ lineEnd ++ r.body

/-! ## Fields of the connection -/

def insertField (f : Field) : List Field → List Field
  | [] => [f]
  | g :: rest => if f.name < g.name then f :: g :: rest else g :: insertField f rest

/-- Only current clients have to be told that the connection closes. -/
def connectionFields : Version → List Field
  | .current => [.ofText "connection" "close"]
  | .old => []

/-- The size of the body is left out for an empty reply to a request for the head alone. -/
def sizeFields (headOnly : Bool) (body : Bytes) : List Field :=
  if headOnly && body.length = 0 then [] else [.ofText "content-length" (toString body.length)]

/-- A reply as it goes over the connection. -/
def Reply.send (version : Version) (headOnly : Bool) (reply : Reply) : Received where
  version := version
  status := reply.status
  fields :=
    (connectionFields version ++ sizeFields headOnly reply.body).foldr insertField reply.fields
  body := if headOnly then [] else reply.body

def refuse (status : Status) : Received :=
  Reply.send .current false ⟨status, [], []⟩

/-! ## One exchange -/

def greatestOpeningSize : Nat := 417792

/-- What clients of the next version of the protocol begin with. They get no reply. -/
def nextVersionOpening : Bytes :=
  Text.utf8 "PRI * HTTP/2.0\r\n\r\nSM\r\n\r\n"

def isNextVersion (bytes : Bytes) : Bool :=
  nextVersionOpening.isPrefixOf (bytes.dropWhile fun b => b = cr || b = lf)

/-- Whether the opening of a request has been received in full. -/
def isOpened (bytes : Bytes) : Bool :=
  match readOpening bytes with
  | .ok _ => true
  | .error _ => false

/-- Whether more bytes could change what the client gets back. -/
def wantsMore (limit : Nat) (bytes : Bytes) : Bool :=
  match readOpening bytes with
  | .error .unfinished => bytes.length < greatestOpeningSize
  | .error (.refused _) => false
  | .ok (opening, rest) => (opening.framing.read .silent rest).collect limit = .silent

variable {σ : Type}

def exchange (d : Dispatcher σ) (cors : Bool) (limit : Nat) (sent : Sent) (s : σ) :
    Option Received × σ :=
  match readOpening sent.bytes with
  | .error .unfinished =>
      if greatestOpeningSize ≤ sent.bytes.length then (some (refuse .headTooLarge), s)
      else (none, s)
  | .error (.refused status) =>
      (if isNextVersion sent.bytes then none else some (refuse status), s)
  | .ok (opening, rest) =>
      let ending : BodyEnd := if sent.closed then .broken else .silent
      let (reply, s) := respond d cors limit opening.head (opening.framing.read ending rest) s
      (some (reply.send opening.version (opening.head.method = "HEAD")), s)

end Http
end RpcHost
