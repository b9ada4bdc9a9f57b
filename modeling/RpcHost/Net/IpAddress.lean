/-!
# IP addresses

An IPv4 address is written as four decimal bytes without leading zeros. An IPv6 address is written
as eight groups of at most four hexadecimal digits; one run of zero groups may be left out between
two colons, and the last two groups may be written as an IPv4 address.
-/

namespace RpcHost
namespace Net

inductive IpAddress where
  | v4 (bytes : List Nat)
  | v6 (groups : List Nat)
  deriving DecidableEq, Repr

/-- What was read, and the characters after it. -/
abbrev Read (α : Type) := Option (α × List Char)

/-! ## Numbers -/

def digitValue? (radix : Nat) (c : Char) : Option Nat :=
  let value :=
    if '0' ≤ c ∧ c ≤ '9' then c.toNat - 48
    else if 'a' ≤ c ∧ c ≤ 'f' then c.toNat - 87
    else if 'A' ≤ c ∧ c ≤ 'F' then c.toNat - 55
    else radix
  if value < radix then some value else none

def valueOf (radix : Nat) (digits : List Char) : Nat :=
  digits.foldl (fun n c => n * radix + (digitValue? radix c).getD 0) 0

/-- All digits at the front, and what follows them. -/
def splitDigits (radix : Nat) (cs : List Char) : List Char × List Char :=
  cs.span fun c => (digitValue? radix c).isSome

/-- A decimal byte of at most three digits without a leading zero. -/
def readByte (cs : List Char) : Read Nat :=
  let (digits, rest) := splitDigits 10 cs
  let value := valueOf 10 digits
  if digits = [] ∨ 3 < digits.length then none
  else if digits.head? = some '0' ∧ 1 < digits.length then none
  else if 255 < value then none
  else some (value, rest)

/-- One to four hexadecimal digits. -/
def readGroup (cs : List Char) : Read Nat :=
  let (digits, rest) := splitDigits 16 cs
  if digits = [] ∨ 4 < digits.length then none else some (valueOf 16 digits, rest)

/-- The separator comes before every part but the first. -/
def separated {α : Type} (separator : Char) (first : Bool) (read : List Char → Read α)
    (cs : List Char) : Read α :=
  if first then read cs
  else
    match cs with
    | c :: rest => if c = separator then read rest else none
    | [] => none

/-! ## Addresses -/

def readV4 (cs : List Char) : Option (List Nat × List Char) := do
  let (a, cs) ← readByte cs
  let (b, cs) ← separated '.' false readByte cs
  let (c, cs) ← separated '.' false readByte cs
  let (d, cs) ← separated '.' false readByte cs
  return ([a, b, c, d], cs)

/-- Groups as far as they go, at most `room`, and whether the last two came as an IPv4 address. -/
def readGroups : (room : Nat) → (first : Bool) → List Char → (List Nat × Bool) × List Char
  | 0, _, cs => (([], false), cs)
  | room + 1, first, cs =>
      match if room = 0 then none else separated ':' first readV4 cs with
      | some ([a, b, c, d], rest) => (([a * 256 + b, c * 256 + d], true), rest)
      | _ =>
          match separated ':' first readGroup cs with
          | none => (([], false), cs)
          | some (group, rest) =>
              let ((groups, dotted), rest) := readGroups room false rest
              ((group :: groups, dotted), rest)

def readV6 (cs : List Char) : Read (List Nat) :=
  let ((head, dotted), rest) := readGroups 8 true cs
  if head.length = 8 then some (head, rest)
  else if dotted then none
  else
    match rest with
    | ':' :: ':' :: rest =>
        let ((tail, _), rest) := readGroups (7 - head.length) true rest
        some (head ++ List.replicate (8 - head.length - tail.length) 0 ++ tail, rest)
    | _ => none

/-- Nothing may follow an address. -/
def whole {α : Type} : Read α → Option α
  | some (a, []) => some a
  | _ => none

/-- The first form that matches at the front decides. -/
def IpAddress.read? (s : String) : Option IpAddress :=
  match readV4 s.toList with
  | some (bytes, rest) => if rest = [] then some (.v4 bytes) else none
  | none => (whole (readV6 s.toList)).map .v6

/-! ## Writing -/

def hexText (n : Nat) : String :=
  String.ofList (Nat.toDigits 16 n)

def v4Text (bytes : List Nat) : String :=
  ".".intercalate (bytes.map toString)

/-- Start and length of the first longest run of zero groups. `next` is the index of the next group
and `run` the length of the run that ends there. -/
def longestZeros (next run : Nat) (best : Nat × Nat) : List Nat → Nat × Nat
  | [] => best
  | g :: rest =>
      if g = 0 then
        let run := run + 1
        longestZeros (next + 1) run (if best.2 < run then (next + 1 - run, run) else best) rest
      else longestZeros (next + 1) 0 best rest

/-- Groups in hexadecimal. The longest run of at least two zero groups is left out, and an address
that stands for an IPv4 address shows it. -/
def v6Text (groups : List Nat) : String :=
  match groups with
  | [0, 0, 0, 0, 0, 0xffff, high, low] =>
      "::ffff:" ++ v4Text [high / 256, high % 256, low / 256, low % 256]
  | groups =>
      let (start, length) := longestZeros 0 0 (0, 0) groups
      let text (gs : List Nat) := ":".intercalate (gs.map hexText)
      if 1 < length then text (groups.take start) ++ "::" ++ text (groups.drop (start + length))
      else text groups

def IpAddress.text : IpAddress → String
  | .v4 bytes => v4Text bytes
  | .v6 groups => v6Text groups

end Net
end RpcHost
