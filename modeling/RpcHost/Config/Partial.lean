import RpcHost.Config.Document
import RpcHost.Toml.Statements

/-!
# Partial configurations

A choice of values for some of the keys of a configuration, what a document has to say to make just
this choice, and the configuration that comes of it. The types of the keys are listed apart from the
reader.
-/

namespace RpcHost
namespace Config

open Toml

/-- For each key a value, or none. -/
structure Partial where
  enabled : Option Bool := none
  listenAddress : Option String := none
  listenPort : Option UInt16 := none
  workers : Option UInt64 := none
  allowCors : Option Bool := none
  readTimeoutSecs : Option UInt64 := none
  maxBodyBytes : Option UInt64 := none
  level : Option UInt8 := none
  deriving DecidableEq, Repr

namespace Partial

def laidOver (p : Partial) (c : Config) : Config where
  control := {
    enabled := p.enabled.getD c.control.enabled
    listenAddress := p.listenAddress.getD c.control.listenAddress
    listenPort := p.listenPort.getD c.control.listenPort
    workers := p.workers.getD c.control.workers
    allowCors := p.allowCors.getD c.control.allowCors
    readTimeoutSecs := p.readTimeoutSecs.getD c.control.readTimeoutSecs
    maxBodyBytes := p.maxBodyBytes.getD c.control.maxBodyBytes }
  debugLevel := p.level.getD c.debugLevel

def values (p : Partial) : List (Toml.Path × Option Value) := [
  (["control", "enabled"], p.enabled.map .boolean),
  (["control", "listen-address"], p.listenAddress.map .string),
  (["control", "listen-port"], p.listenPort.map (.integer ·.toNat)),
  (["control", "workers"], p.workers.map (.integer ·.toNat)),
  (["control", "allow-cors"], p.allowCors.map .boolean),
  (["control", "read-timeout-secs"], p.readTimeoutSecs.map (.integer ·.toNat)),
  (["control", "max-body-bytes"], p.maxBodyBytes.map (.integer ·.toNat)),
  (["debug", "level"], p.level.map (.integer ·.toNat))]

/-- The statements give the chosen keys these values, and do not touch the other keys. What they do
elsewhere does not matter. -/
structure WrittenBy (p : Partial) (stmts : List Statement) : Prop where
  chosen : ∀ path v, (path, some v) ∈ p.values → Writes stmts path v
  others : ∀ path, (path, none) ∈ p.values → ¬ Reaches stmts path

end Partial

/-- The sections of a configuration, where the statements make them, are tables. -/
structure Sectioned (stmts : List Statement) : Prop where
  elements : ∀ name ∈ ["control", "debug"], NoElements stmts [name]
  tables : ∀ name ∈ ["control", "debug"], ∀ v, Writes stmts [name] v → ∃ entries, v = .table entries

/-! ## Types of keys -/

inductive KeyType where
  | boolean
  | string
  | below (bound : Nat)
  deriving DecidableEq, Repr

inductive KeyType.Holds : KeyType → Value → Prop where
  | boolean (b : Bool) : Holds .boolean (.boolean b)
  | string (s : String) : Holds .string (.string s)
  | below {bound n : Nat} (hn : n < bound) : Holds (.below bound) (.integer n)

def controlTypes : List (String × KeyType) := [
  ("enabled", .boolean),
  ("listen-address", .string),
  ("listen-port", .below 0x10000),
  ("workers", .below 0x10000000000000000),
  ("allow-cors", .boolean),
  ("read-timeout-secs", .below 0x10000000000000000),
  ("max-body-bytes", .below 0x10000000000000000)]

def debugTypes : List (String × KeyType) :=
  [("level", .below 0x100)]

def keyTypes : List (Toml.Path × KeyType) :=
  controlTypes.map (fun e => (["control", e.1], e.2))
    ++ debugTypes.map fun e => (["debug", e.1], e.2)

end Config
end RpcHost
