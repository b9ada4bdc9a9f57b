import RpcHost.CommandLine.Basic
import RpcHost.Server.Lifecycle
import RpcHost.Log.Line

/-!
# The command that serves

The options of the command line go over the configuration before it is checked. A server is created
and bound only for a configuration that is valid and enabled; it then serves until a signal arrives.
-/

namespace RpcHost
namespace Commands

open CommandLine Server Log

/-! ## Options over the configuration -/

/-- The configuration with every value that was given. -/
def override (o : ServeOptions) (c : Config) : Config :=
  { c with
    control := { c.control with
      listenAddress := o.listenAddress.getD c.control.listenAddress
      listenPort := o.listenPort.getD c.control.listenPort
      workers := o.workers.getD c.control.workers
      allowCors := c.control.allowCors || o.allowCors } }

/-- The check comes after the change, and the change stays whatever the check says. -/
def apply (o : ServeOptions) (c : Config) : Except Config.Rejection Unit × Config :=
  let merged := override o c
  (merged.validate, merged)

/-! ## Serving -/

inductive ServeError where
  | rejected (reason : Config.Rejection)
  | notStarted (error : StartError)
  deriving DecidableEq, Repr

def ServeError.chain : ServeError → List String
  | .rejected reason => [reason.message]
  | .notStarted error => "Failed to start RPC server" :: error.chain

/-- How a run of the command ends. -/
inductive ServeEnd where
  | finished
  | failed (error : ServeError)
  /-- No signal arrives, so it does not end. -/
  | serving
  deriving DecidableEq, Repr

def commandTarget : String := "minirpc::cli::serve"
def serverTarget : String := "minirpc::rpc::server"

def note (text : String) : Line := ⟨.info, commandTarget, text⟩
def serverNote (text : String) : Line := ⟨.info, serverTarget, text⟩
def serverDetail (text : String) : Line := ⟨.debug, serverTarget, text⟩

def yesNo (b : Bool) : String :=
  if b then "YES" else "NO"

def featureLines (c : Config) : List Line := [
  note " CONTROL ----------------------",
  note ("         ENABLED : " ++ yesNo c.control.enabled),
  note ("          LISTEN : " ++ Net.endpoint c.control.listenAddress c.control.listenPort),
  note ("         WORKERS : " ++ toString c.control.workers.toNat),
  note ("      ALLOW CORS : " ++ yesNo c.control.allowCors)]

def listeningLine (address : Net.SocketAddress) (s : Settings) : Line :=
  serverNote ("RPC server listening on " ++ address.text ++ " ("
    ++ toString s.workerCount.toNat ++ " worker(s), cors: " ++ toString s.allowCors ++ ")")

/-- What the workers log, in the order of their numbers. -/
def workerLines (s : Settings) (text : String) : List Line :=
  (List.range s.workerCount.toNat).map fun id =>
    serverDetail ("Worker " ++ toString id ++ text)

/-- What is logged, and how it ends. -/
structure ServeRun where
  lines : List Line
  ending : ServeEnd
  deriving DecidableEq, Repr

/-- Serving begins with the check of the configuration, and is over with it when nothing is to be
served. -/
inductive ServeStart where
  | over (run : ServeRun)
  | ready (c : Config)
  deriving DecidableEq, Repr

def begin (o : ServeOptions) (c : Config) : ServeStart :=
  match apply o c with
  | (.error reason, _) => .over ⟨[], .failed (.rejected reason)⟩
  | (.ok _, merged) =>
      if merged.control.enabled then .ready merged
      else .over
        ⟨featureLines merged ++ [note "Control interface disabled, nothing to serve"], .finished⟩

/-- What is logged once a server is bound. -/
def openingLines (address : Net.SocketAddress) (s : Settings) : List Line :=
  listeningLine address s :: workerLines s " accepting connections"

/-- What is logged when a signal arrives. -/
def closingLines (s : Settings) : List Line :=
  [note "Shutdown signal received", serverNote "Stopping RPC server"]
    ++ workerLines s " exiting" ++ [serverNote "RPC server stopped"]

/-- Serving with a configuration that is in force. -/
def serveWith (bind : String → UInt16 → BindResult) (signalled : Bool) (c : Config) : ServeRun :=
  let settings := c.serverSettings
  match ((Lifecycle.new settings).start (bind settings.address settings.port)).1 with
  | .error e => ⟨featureLines c, .failed (.notStarted e)⟩
  | .ok address =>
      let lines := featureLines c ++ openingLines address settings
      if signalled then ⟨lines ++ closingLines settings, .finished⟩ else ⟨lines, .serving⟩

def serve (bind : String → UInt16 → BindResult) (signalled : Bool) (o : ServeOptions)
    (c : Config) : ServeRun :=
  match begin o c with
  | .over run => run
  | .ready merged => serveWith bind signalled merged

end Commands
end RpcHost
