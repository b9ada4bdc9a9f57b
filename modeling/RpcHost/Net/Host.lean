import RpcHost.Net.Endpoint

/-!
# Hosts

A host is given by an IP address or by a name that has to be looked up. Besides the strict form
there is a loose one for IPv4 addresses: one to four numbers between dots, each decimal, octal after
a zero, or hexadecimal after a zero and an x. Every number but the last stands for one byte, and the
last one for all that remain. An IPv6 address may have a percent sign and the number of a scope
behind it.
-/

namespace RpcHost
namespace Net

/-- A number of any size. A zero that no digit of its radix follows stands for itself. -/
def readNumber (cs : List Char) : Read Nat :=
  let digits (radix : Nat) (cs : List Char) : Read Nat :=
    let (digits, rest) := splitDigits radix cs
    if digits = [] then none else some (valueOf radix digits, rest)
  match cs with
  | '0' :: 'x' :: rest | '0' :: 'X' :: rest => (digits 16 rest).or (digits 8 cs)
  | '0' :: _ => digits 8 cs
  | _ => digits 10 cs

/-- So many bytes of a number, the highest first. -/
def bytesOf (n : Nat) : (count : Nat) → List Nat
  | 0 => []
  | count + 1 => n / Nat.pow 256 count % 256 :: bytesOf n count

/-- Numbers for one byte more than `room`. -/
def readLoose : (room : Nat) → List Char → Option (List Nat)
  | room, cs => do
      let (n, rest) ← readNumber cs
      match room, rest with
      | room, [] => if n < Nat.pow 256 (room + 1) then some (bytesOf n (room + 1)) else none
      | room + 1, '.' :: rest => if n < 256 then (readLoose room rest).map (n :: ·) else none
      | _, _ => none

def looseV4? (s : String) : Option IpAddress :=
  (readLoose 3 s.toList).map .v4

def scopedV6? (s : String) : Option IpAddress := do
  let (groups, rest) ← readV6 s.toList
  if readScope rest = [] then return .v6 groups else none

inductive Host where
  | address (ip : IpAddress)
  | name (text : String)
  deriving DecidableEq, Repr

/-- A text is a name when it is no address. No name has a character of code zero. -/
def Host.read? (s : String) : Option Host :=
  match IpAddress.read? s with
  | some ip => some (.address ip)
  | none =>
      if s.toList.contains '\x00' then none
      else some (((looseV4? s).or (scopedV6? s)).elim (.name s) .address)

end Net
end RpcHost
