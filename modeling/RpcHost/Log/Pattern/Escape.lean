import RpcHost.Log.Pattern.Basic

/-!
# Escapes in patterns

A backslash takes a mark for itself, names a character by a letter or by its code, or stands for a
group of characters or for an anchor. Groups and most anchors are there for bytes alone, since those
of all characters would need properties of theirs.
-/

namespace RpcHost
namespace Log
namespace Pattern

/-- What a backslash and the characters after it stand for. -/
inductive Escaped where
  | letter (c : Char)
  | group
  | anchor
  deriving DecidableEq, Repr

def hexValue? (c : Char) : Option Nat :=
  if '0' ≤ c ∧ c ≤ '9' then some (c.toNat - 48)
  else if 'a' ≤ c ∧ c ≤ 'f' then some (c.toNat - 87)
  else if 'A' ≤ c ∧ c ≤ 'F' then some (c.toNat - 55)
  else none

/-- A number of exactly so many hexadecimal digits after those that made a value. -/
def readHex (modes : Modes) (value : Nat) :
    (digits : Nat) → List Char → Option (Nat × List Char)
  | 0, cs => some (value, cs)
  | digits + 1, cs =>
      match modes.skip cs with
      | [] => none
      | c :: rest => do readHex modes (value * 16 + (← hexValue? c)) digits rest

/-- A character by its code, which has to be that of a character below a bound. -/
def readCode (modes : Modes) (digits bound : Nat) (cs : List Char) :
    Option (Escaped × List Char) := do
  let (code, rest) ← readHex modes 0 digits cs
  if code.isValidChar ∧ code < bound then return (.letter (Char.ofNat code), rest) else none

/-- The characters that a backslash takes for themselves. -/
def isPunctuation (c : Char) : Bool :=
  c.toNat < 128 && !c.isAlphanum && c ≠ '<' && c ≠ '>'

/-- Reads what stands after a backslash. -/
def readEscape (modes : Modes) : List Char → Option (Escaped × List Char)
  | [] => none
  | 'x' :: rest => readCode modes 2 (if modes.bytewise then 0x80 else 0x100) rest
  | 'u' :: rest => readCode modes 4 0x10000 rest
  | 'U' :: rest => readCode modes 8 0x110000 rest
  | 'a' :: rest => some (.letter '\x07', rest)
  | 't' :: rest => some (.letter '\t', rest)
  | 'n' :: rest => some (.letter '\n', rest)
  | 'v' :: rest => some (.letter '\x0b', rest)
  | 'f' :: rest => some (.letter '\x0c', rest)
  | 'r' :: rest => some (.letter '\r', rest)
  | c :: rest =>
      if isPunctuation c then some (.letter c, rest)
      else if c = 'A' ∨ c = 'z' then some (.anchor, rest)
      else if !modes.bytewise then none
      else if c ∈ ['d', 's', 'w'] then some (.group, rest)
      else if c ∈ ['b', 'B', '<', '>'] then some (.anchor, rest)
      else none

end Pattern
end Log
end RpcHost
