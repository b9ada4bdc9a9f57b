import RpcHost.Program
import RpcHost.Http.Exchange
import RpcHost.Net.Host
import RpcHost.Rpc.MethodTable
import Std.Async

/-!
# The program on a real system

Files, environment, signals and sockets around the program. The files that a run may look at are
read beforehand, and what the run does to them is done to the system afterwards.
-/

open RpcHost RpcHost.Files RpcHost.Log RpcHost.Server

namespace RpcHost.System

/-! ## Files -/

def entryAt (place : Location) : IO (Option Entry) := do
  let path := (← IO.currentDir) / place.path.text
  if ← path.isDir then return some .directory
  else if ← path.pathExists then return some (.file (← IO.FS.readBinFile path).data.toList)
  else return none

/-- What is on the way along some steps. -/
def entriesOn : List Step → Location → FileSystem → IO FileSystem
  | steps, place, fs => do
      let fs ← match ← entryAt place with
        | some entry => pure (if place = [] then fs else fs.put place entry)
        | none => pure fs
      match steps with
      | [] => return fs
      | .stay :: rest => entriesOn rest place fs
      | .up :: rest => entriesOn rest place.tail fs
      | .down name :: rest => entriesOn rest (name :: place) fs

def filesAt (cwd : Location) (paths : List Path) : IO FileSystem :=
  paths.foldlM (fun fs p => do
    let fs ← entriesOn (cwd.reverse.map .down) [] fs
    entriesOn p.steps (FileSystem.origin cwd p) fs) []

/-- Does to the system what was done to the files. Directories come before what lies in them. -/
def store (before after : FileSystem) : IO Unit :=
  after.forM fun item => do
    if before.find? item.place ≠ some item.entry then
      match item.entry with
      | .directory => IO.FS.createDir item.place.path.text
      | .file content => IO.FS.writeBinFile item.place.path.text ⟨content.toArray⟩

/-! ## Surroundings -/

def placeOf (path : Path) : Location :=
  path.steps.foldl (fun place step =>
    match step with
    | .down name => name :: place
    | .up => place.tail
    | .stay => place) []

def site : IO Config.Site := do
  let home := (← IO.getEnv "HOME").filter (· ≠ "")
  return ⟨placeOf ⟨(← IO.currentDir).toString⟩, home.map Files.Path.mk⟩

def surroundings (args : List String) : IO Program.Surroundings := do
  let bare : Program.Surroundings := {
    site := ← site
    configVariable := ← IO.getEnv "MINIRPC_CONFIG"
    logVariable := ← IO.getEnv "RUST_LOG"
    files := [] }
  return { bare with files := ← filesAt bare.site.cwd (Program.paths bare args) }

/-! ## Output -/

def emit (lines : List Line) : IO Unit :=
  lines.forM fun line => IO.eprintln (line.level.label ++ " " ++ line.target ++ ": " ++ line.text)

def finish (s : Program.Surroundings) (outcome : Program.Outcome) : IO UInt32 := do
  emit outcome.lines
  store s.files outcome.files
  IO.print outcome.output
  match outcome.ending with
  | .failed chain => IO.eprint (Program.failureText chain)
  | .refused refusal => if !refusal.isAnswer then IO.eprint ("error: see --help\n" ++ Program.usage)
  | _ => pure ()
  return ((outcome.ending.exitCode?.getD 0).toNat).toUInt32

/-! ## Serving -/

open Std Async in
/-- Listens at an address. -/
def listen (settings : Settings) :
    IO (Except BindFault (TCP.Socket.Server × Net.SocketAddress)) := do
  let some host := Net.Host.read? settings.address | return .error .nulInName
  let resolved ← match host with
    | .address ip => pure (some ip.text)
    | .name name =>
        try
          let found ← (DNS.getAddrInfo name "").block
          pure (found[0]?.map toString)
        catch _ => pure none
  let some host := resolved | return .error .unknownName
  let target : Option Std.Net.SocketAddress :=
    match Std.Net.IPv4Addr.ofString host, Std.Net.IPv6Addr.ofString host with
    | some ip, _ => some (.v4 ⟨ip, settings.port⟩)
    | _, some ip => some (.v6 ⟨ip, settings.port⟩)
    | _, _ => none
  let some target := target | return .error .unknownName
  try
    let socket ← TCP.Socket.Server.mk
    socket.bind target
    socket.listen 1024
    let port := match ← socket.getSockName with
      | .v4 a => a.port
      | .v6 a => a.port
    let some ip := Net.IpAddress.read? host | return .error .unknownName
    return .ok (socket, ⟨ip, port⟩)
  catch
    | .resourceBusy .. => return .error .inUse
    | .permissionDenied .. => return .error .denied
    | _ => return .error .unavailable

open Std Async in
/-- Receives until no more bytes are wanted, the client closes its side, or the time is up. The time
starts anew when the opening is complete. -/
partial def receive (client : TCP.Socket.Client) (settings : Settings) (deadline : Nat)
    (opened : Bool) (sent : Bytes) : Async Http.Sent := do
  let now ← IO.monoMsNow
  if !Http.wantsMore settings.maxBodyBytes.toNat sent then return ⟨sent, false⟩
  if !opened && Http.isOpened sent then
    receive client settings (now + settings.readTimeoutMillis) true sent
  else if deadline ≤ now then return ⟨sent, false⟩
  else
    let timer ← Selector.sleep (Time.Millisecond.Offset.ofNat (deadline - now))
    let arrived ← Selectable.one #[
      .case (client.recvSelector 65536) fun more => return some more,
      .case timer fun _ => return none]
    match arrived with
    | some (some more) => receive client settings deadline opened (sent ++ more.data.toList)
    | some none => return ⟨sent, true⟩
    | none => return ⟨sent, false⟩

open Std Async in
def serveConnection (client : TCP.Socket.Client) (settings : Settings) : Async Unit := do
  let start ← IO.monoMsNow
  let sent ← receive client settings (start + settings.readTimeoutMillis) false []
  let table : Rpc.MethodTable Unit := .builtin ()
  let (received, _) := Http.exchange Rpc.MethodTable.serve settings.allowCors
    settings.maxBodyBytes.toNat sent table
  match received with
  | some r => client.send ⟨r.bytes.toArray⟩
  | none => pure ()
  client.shutdown

open Std Async in
/-- One worker. The gate lets one worker at a time wait for a connection. -/
partial def work (socket : TCP.Socket.Server) (token : CancellationToken) (gate : BaseMutex)
    (settings : Settings) : Async Unit := do
  gate.lock
  let client ← try
      if ← token.isCancelled then pure none
      else Selectable.one #[
        .case token.selector fun _ => return none,
        .case socket.acceptSelector fun client => return some client]
    finally gate.unlock
  match client with
  | none => return
  | some client =>
      try serveConnection client settings catch _ => pure ()
      work socket token gate settings

open Std Async in
def awaitSignal : Async Unit := do
  let interrupt ← Signal.Waiter.mk .sigint false
  let terminate ← Signal.Waiter.mk .sigterm false
  Selectable.one #[
    .case interrupt.selector fun _ => return (),
    .case terminate.selector fun _ => return ()]

open Std Async in
def serve (c : Config) (filter : Filter) : IO (List String) := do
  let emitAllowed (lines : List Line) : IO Unit := emit (lines.filter filter.allows)
  let settings := c.serverSettings
  emitAllowed (Commands.featureLines c)
  let listening ← listen settings
  match (Lifecycle.new settings).start (listening.map (·.2)), listening with
  | (.ok address, _), .ok (socket, _) => do
      emitAllowed (Commands.openingLines address settings)
      let token ← CancellationToken.new
      let gate ← BaseMutex.new
      let workers ← (List.range settings.workerCount.toNat).mapM fun _ =>
        IO.asTask (work socket token gate settings).block .dedicated
      awaitSignal.block
      token.cancel
      workers.forM fun worker => do
        let _ ← IO.wait worker
      emitAllowed (Commands.closingLines settings)
      return []
  | (.error e, _), _ => return (Commands.ServeError.notStarted e).chain
  | _, .error _ => return []

end RpcHost.System

open RpcHost.System in
def main (args : List String) : IO UInt32 := do
  let s ← surroundings args
  match Program.plan s args with
  | .over outcome => finish s outcome
  | .serve c filter =>
      match ← serve c filter with
      | [] => return 0
      | chain => finish s ⟨.failed chain, "", [], s.files⟩
