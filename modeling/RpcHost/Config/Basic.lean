import RpcHost.Server.Settings
import RpcHost.Text.Quoted

/-!
# Configurations

The settings of the control interface and of the log, with their defaults, and the check that a
configuration has to pass before it is used.
-/

namespace RpcHost

/-- The interface on which requests are served. -/
structure Control where
  enabled : Bool := true
  listenAddress : String := "127.0.0.1"
  listenPort : UInt16 := 10081
  workers : UInt64 := 1
  allowCors : Bool := false
  readTimeoutSecs : UInt64 := 10
  maxBodyBytes : UInt64 := 1048576
  deriving DecidableEq, Repr

structure Config where
  control : Control := {}
  /-- How much is logged: informative lines, from one on debugging lines, from two on traces. -/
  debugLevel : UInt8 := 0
  deriving DecidableEq, Repr

namespace Config

def default : Config := {}

instance : Inhabited Config := ⟨default⟩

def serverSettings (c : Config) : Server.Settings where
  address := c.control.listenAddress
  port := c.control.listenPort
  workerCount := c.control.workers
  allowCors := c.control.allowCors
  readTimeoutMillis := c.control.readTimeoutSecs.toNat * 1000
  maxBodyBytes := c.control.maxBodyBytes

/-! ## Validity -/

/-- Why a configuration cannot be used. -/
inductive Rejection where
  | listenAddress (address : String)
  | noWorkers
  | noReadTimeout
  deriving DecidableEq, Repr

def Rejection.message : Rejection → String
  | .listenAddress address => "invalid listen-address: " ++ Text.quoted address
  | .noWorkers => "workers must be at least 1"
  | .noReadTimeout => "read-timeout-secs must be at least 1"

/-- The first reason to reject a configuration, if there is one. -/
def rejection? (c : Config) : Option Rejection :=
  if !Net.isListenAddress c.control.listenAddress then
    some (.listenAddress c.control.listenAddress)
  else if c.control.workers = 0 then some .noWorkers
  else if c.control.readTimeoutSecs = 0 then some .noReadTimeout
  else none

def validate (c : Config) : Except Rejection Unit :=
  match c.rejection? with
  | some reason => .error reason
  | none => .ok ()

end Config
end RpcHost
