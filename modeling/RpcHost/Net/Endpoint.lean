import RpcHost.Net.IpAddress

/-!
# Listen addresses and endpoints

A server listens on an IP address or on a host name. `endpoint` is the text of a listen address with
its port. `SocketAddress` is the strict form of an endpoint, in which an IPv6 address stands between
brackets.
-/

namespace RpcHost
namespace Net

/-! ## Host names -/

/-- The parts between dots. -/
def labels (cs : List Char) : List (List Char) :=
  cs.splitOn '.'

def isAsciiDigit (c : Char) : Bool :=
  '0' ≤ c && c ≤ '9'

def isLabelChar (c : Char) : Bool :=
  c.isAlphanum || c = '-' || c = '_'

def isLabel (label : List Char) : Bool :=
  label ≠ [] && label.length ≤ 63 && label.head? ≠ some '-' && label.getLast? ≠ some '-'
    && label.all isLabelChar

/-- At most 253 bytes of labels, not all of them made of digits alone: that would be a misspelt
IPv4 address. -/
def isHostName (s : String) : Bool :=
  s ≠ "" && s.utf8ByteSize ≤ 253
    && !(labels s.toList).all (·.all isAsciiDigit)
    && (labels s.toList).all isLabel

/-- An IP address or a host name. -/
def isListenAddress (s : String) : Bool :=
  (IpAddress.read? s).isSome || isHostName s

/-! ## Endpoints -/

def endpoint (address : String) (port : UInt16) : String :=
  address ++ ":" ++ toString port.toNat

structure SocketAddress where
  ip : IpAddress
  port : UInt16
  deriving DecidableEq, Repr

/-- A port number, leading zeros allowed. -/
def readPort (cs : List Char) : Read UInt16 :=
  let (digits, rest) := splitDigits 10 cs
  let value := valueOf 10 digits
  if digits = [] ∨ 65535 < value then none else some (UInt16.ofNat value, rest)

def readScope (cs : List Char) : List Char :=
  match cs with
  | '%' :: rest =>
      let (digits, after) := splitDigits 10 rest
      if digits = [] ∨ 0x100000000 ≤ valueOf 10 digits then cs else after
  | cs => cs

def readV4Endpoint (cs : List Char) : Option (SocketAddress × List Char) := do
  let (bytes, cs) ← readV4 cs
  let (port, cs) ← separated ':' false readPort cs
  return (⟨.v4 bytes, port⟩, cs)

def readV6Endpoint : List Char → Option (SocketAddress × List Char)
  | '[' :: cs => do
      let (groups, cs) ← readV6 cs
      match readScope cs with
      | ']' :: cs => do
          let (port, cs) ← separated ':' false readPort cs
          return (⟨.v6 groups, port⟩, cs)
      | _ => none
  | _ => none

def SocketAddress.read? (s : String) : Option SocketAddress :=
  whole ((readV4Endpoint s.toList).or (readV6Endpoint s.toList))

def SocketAddress.text (a : SocketAddress) : String :=
  match a.ip with
  | .v4 _ => endpoint a.ip.text a.port
  | .v6 _ => endpoint ("[" ++ a.ip.text ++ "]") a.port

end Net
end RpcHost
