import RpcHost.Log.Pattern.Escape

/-!
# Classes in patterns

A class stands in brackets and has members: characters, ranges, groups, and other classes, which
may go by names. Operators take what stands before them together with what comes after.
-/

namespace RpcHost
namespace Log
namespace Pattern

/-! ## Names -/

def classNames : List String :=
  ["alnum", "alpha", "ascii", "blank", "cntrl", "digit", "graph", "lower", "print", "punct",
    "space", "upper", "word", "xdigit"]

/-- A class that goes by a name. -/
structure NamedClass where
  negated : Bool
  name : String
  deriving DecidableEq, Repr

/-- A class by its name between colons, after the opening bracket. No blanks stand there. -/
def readNamedClass? : List Char → Option (NamedClass × List Char)
  | ':' :: rest =>
      let negated := rest.head? = some '^'
      let rest := if negated then rest.tail else rest
      let name := rest.takeWhile (· ≠ ':')
      match rest.drop name.length with
      | ':' :: ']' :: rest =>
          if String.ofList name ∈ classNames then some (⟨negated, String.ofList name⟩, rest)
          else none
      | _ => none
  | _ => none

/-- What is not in a class of ASCII characters is not text when it is about bytes. -/
def Modes.allowNamed (modes : Modes) (named : NamedClass) : Bool :=
  !modes.needsCases && !(named.negated && modes.bytewise)

/-! ## Members -/

/-- A member may be a character, which has to be an ASCII one to stand for a byte, or a group. -/
def Modes.allowMember (modes : Modes) : Escaped → Bool
  | .letter c => !modes.bytewise || c.toNat < 128
  | .group => true
  | .anchor => false

def readMember (modes : Modes) : List Char → Option (Escaped × List Char)
  | [] => none
  | '\\' :: rest => (readEscape modes rest).filter fun read => modes.allowMember read.1
  | c :: rest => if modes.allowMember (.letter c) then some (.letter c, rest) else none

/-- A member, or a range of two characters in ascending order. A dash before a bracket or another
dash makes no range. -/
def readRange (modes : Modes) (cs : List Char) : Option (List Char) := do
  let (low, rest) ← readMember modes cs
  match modes.skip rest with
  | '-' :: after =>
      match modes.ahead? after with
      | some ']' | some '-' => return '-' :: after
      | _ =>
          let (high, rest) ← readMember modes (modes.skip after)
          match low, high with
          | .letter a, .letter b => if a ≤ b then return rest else none
          | _, _ => none
  | rest => return rest

/-! ## Classes -/

/-- What has been read of a class. -/
structure ClassLevel where
  /-- Whether a dash would still be a member. -/
  opening : Bool := true
  /-- The heights of the members after the last operator. -/
  members : List Nat := []
  /-- The height of what the last operator takes from before it. -/
  operand : Option Nat := none
  deriving DecidableEq, Repr

def ClassLevel.height (l : ClassLevel) : Nat :=
  match l.operand with
  | none => jointHeight l.members
  | some height => max height (jointHeight l.members) + 1

def ClassLevel.put (height : Nat) (l : ClassLevel) : ClassLevel :=
  { l with opening := false, members := height :: l.members }

def ClassLevel.operated (l : ClassLevel) : ClassLevel :=
  { opening := false, members := [], operand := some l.height }

/-- What stands at the start of a class. All but ASCII characters are not text when it is about
bytes, and what is not in a class is never made of these alone. -/
def openClass (modes : Modes) (cs : List Char) : Option (List Char) :=
  match modes.skip cs with
  | '^' :: rest => if modes.bytewise then none else some rest
  | rest => some rest

/-- Reads to the end of a class, and gives its height. At the start dashes are members, and so is a
bracket that would end the class at once. A class whose cases matter has no members but classes, and
these have no others either. -/
def readClass (modes : Modes) :
    (fuel : Nat) → ClassLevel → (outer : List ClassLevel) → List Char → Option (Nat × List Char)
  | 0, _, _, _ => none
  | fuel + 1, level, outer, cs =>
      match modes.skip cs with
      | [] => none
      | ']' :: rest =>
          if level.opening && level.members = [] then
            if modes.needsCases then none else readClass modes fuel (level.put 0) outer rest
          else
            match outer with
            | [] => some (level.height + 1, rest)
            | next :: outer => readClass modes fuel (next.put (level.height + 1)) outer rest
      | '[' :: rest =>
          match readNamedClass? rest with
          | some (named, rest) =>
              if modes.allowNamed named then readClass modes fuel (level.put 0) outer rest
              else none
          | none => do readClass modes fuel {} (level :: outer) (← openClass modes rest)
      | c :: rest =>
          if level.opening && c = '-' then
            if modes.needsCases then none
            else readClass modes fuel { level with members := 0 :: level.members } outer rest
          else if c ∈ ['&', '-', '~'] && rest.head? = some c then
            readClass modes fuel level.operated outer rest.tail
          else if modes.needsCases then none
          else do readClass modes fuel (level.put 0) outer (← readRange modes (c :: rest))

end Pattern
end Log
end RpcHost
