import RpcHost.Config.Basic
import RpcHost.Toml.Reader
import RpcHost.Toml.Writer

/-!
# Configuration documents

A configuration is written as a TOML document with the sections `control` and `debug`. When one is
read, missing keys take their defaults and unknown keys do not matter. A section may also be an
array of its values in the order in which they are written.
-/

namespace RpcHost
namespace Config

open Toml

/-! ## Writing -/

def controlSection (c : Control) : Section where
  name := "control"
  statements := [
    ("enabled", .boolean c.enabled),
    ("listen-address", .string c.listenAddress),
    ("listen-port", .integer c.listenPort.toNat),
    ("workers", .integer c.workers.toNat),
    ("allow-cors", .boolean c.allowCors),
    ("read-timeout-secs", .integer c.readTimeoutSecs.toNat),
    ("max-body-bytes", .integer c.maxBodyBytes.toNat)]

def debugSection (level : UInt8) : Section where
  name := "debug"
  statements := [("level", .integer level.toNat)]

/-- The text of a configuration. There is none when one of its numbers is too great for TOML. -/
def text? (c : Config) : Option String :=
  Toml.write? [controlSection c.control, debugSection c.debugLevel]

/-! ## Reading -/

/-- The values of a section by key. A date-time counts as a section without known keys. -/
def sectionValues (keys : List String) : Value → Option (List (String × Value))
  | .table entries => some entries
  | .array items => some (keys.zip items)
  | .datetime _ => some []
  | _ => none

def boolean? : Value → Option Bool
  | .boolean b => some b
  | _ => none

def string? : Value → Option String
  | .string s => some s
  | _ => none

/-- A natural number below a bound. -/
def natBelow? (bound : Nat) : Value → Option Nat
  | .integer i => if 0 ≤ i ∧ i < bound then some i.toNat else none
  | _ => none

def uint8? (v : Value) : Option UInt8 := (natBelow? 0x100 v).map UInt8.ofNat
def uint16? (v : Value) : Option UInt16 := (natBelow? 0x10000 v).map UInt16.ofNat
def uint64? (v : Value) : Option UInt64 := (natBelow? 0x10000000000000000 v).map UInt64.ofNat

/-- The value under a key, or the default when there is none. -/
def valueOr {α : Type} (values : List (String × Value)) (key : String) (read : Value → Option α)
    (default : α) : Option α :=
  match Entries.find? key values with
  | none => some default
  | some v => read v

def controlKeys : List String :=
  (controlSection {}).statements.map (·.1)

def readControl (v : Value) : Option Control := do
  let values ← sectionValues controlKeys v
  let default : Control := {}
  return {
    enabled := ← valueOr values "enabled" boolean? default.enabled
    listenAddress := ← valueOr values "listen-address" string? default.listenAddress
    listenPort := ← valueOr values "listen-port" uint16? default.listenPort
    workers := ← valueOr values "workers" uint64? default.workers
    allowCors := ← valueOr values "allow-cors" boolean? default.allowCors
    readTimeoutSecs := ← valueOr values "read-timeout-secs" uint64? default.readTimeoutSecs
    maxBodyBytes := ← valueOr values "max-body-bytes" uint64? default.maxBodyBytes }

def readDebug (v : Value) : Option UInt8 := do
  let values ← sectionValues ["level"] v
  valueOr values "level" uint8? 0

/-- The configuration in a document whose values have the right types. -/
def ofDocument (v : Value) : Option Config := do
  let values ← sectionValues ["control", "debug"] v
  return {
    control := ← valueOr values "control" readControl {}
    debugLevel := ← valueOr values "debug" readDebug 0 }

/-- Reads a configuration without checking it. -/
def read? (text : String) : Option Config :=
  Toml.read text >>= ofDocument

/-! ## Reading with the check -/

inductive ParseError where
  | malformed
  | rejected (reason : Rejection)
  deriving DecidableEq, Repr

def ParseError.message : ParseError → String
  | .malformed => "TOML parse error"
  | .rejected reason => reason.message

/-- Reads a configuration that can be used. -/
def parse (text : String) : Except ParseError Config :=
  match read? text with
  | none => .error .malformed
  | some c =>
      match c.rejection? with
      | some reason => .error (.rejected reason)
      | none => .ok c

end Config
end RpcHost
