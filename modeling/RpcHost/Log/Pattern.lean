import RpcHost.Log.Pattern.Class
import RpcHost.Text.Alphanumeric

/-!
# Patterns

Regular expressions that a log filter gives for the values of fields. Only their form matters here:
a pattern that is not well formed makes the whole filter invalid. Patterns know the ASCII characters
alone, so whatever would need the properties of other characters is refused. A closing brace ends
the place of a pattern in a filter, so what needs one is not well formed there either.
-/

namespace RpcHost
namespace Log
namespace Pattern

/-! ## Groups -/

def isNameChar (c : Char) : Bool :=
  Text.isAlphanumeric c || c ∈ ['_', '.', '[', ']']

def isGroupName (name : List Char) : Bool :=
  match name with
  | [] => false
  | c :: rest => (c = '_' || Text.isAlphabetic c) && rest.all isNameChar

/-- Modes to be set, and after a dash those to be unset. None is named twice. -/
def setModes (names : List Char) (modes : Modes) : Option Modes :=
  if !names.all (· ∈ ['i', 'm', 's', 'U', 'u', 'R', 'x', '-']) || !decide names.Nodup
      || names.getLast? = some '-' then none
  else
    let set := names.takeWhile (· ≠ '-')
    let unset := names.drop set.length
    some {
      bytewise := (modes.bytewise || 'u' ∈ unset) && 'u' ∉ set
      anyCase := (modes.anyCase || 'i' ∈ set) && 'i' ∉ unset
      spaced := (modes.spaced || 'x' ∈ set) && 'x' ∉ unset }

/-- One thing in a pattern, after what it consists of has been read. -/
structure Part where
  height : Nat
  /-- Setting modes is a part that cannot be repeated. -/
  repeatable : Bool
  deriving DecidableEq, Repr

/-- What has been read of a group, or of a pattern outside its groups. -/
structure Level where
  modes : Modes := {}
  /-- The heights of the branches before the last bar. -/
  branches : List Nat := []
  /-- The parts after the last bar, the last one first. -/
  parts : List Part := []
  deriving DecidableEq, Repr

def Level.branchHeight (l : Level) : Nat :=
  jointHeight (l.parts.map (·.height))

def Level.height (l : Level) : Nat :=
  jointHeight (l.branchHeight :: l.branches)

/-- A part of its own, of some height. -/
def Level.put (height : Nat) (l : Level) : Level :=
  { l with parts := ⟨height, true⟩ :: l.parts }

/-- Modes that are set for no group count to the end of the one around them. -/
def Level.setting (modes : Modes) (l : Level) : Level :=
  { l with modes, parts := ⟨0, false⟩ :: l.parts }

def Level.branch (l : Level) : Level :=
  { l with branches := l.branchHeight :: l.branches, parts := [] }

/-- The last part, repeated. -/
def Level.again? (l : Level) : Option Level :=
  match l.parts with
  | ⟨height, true⟩ :: parts => some { l with parts := ⟨height + 1, true⟩ :: parts }
  | _ => none

/-! ## Patterns -/

/-- What has been read of a pattern. -/
structure Progress where
  level : Level := {}
  /-- What is around the innermost group, from the inside out. -/
  outer : List Level := []
  names : List (List Char) := []
  deriving DecidableEq, Repr

def Progress.opened (inner : Modes) (p : Progress) : Progress :=
  { p with level := { modes := inner }, outer := p.level :: p.outer }

def Progress.closed? (p : Progress) : Option Progress :=
  match p.outer with
  | [] => none
  | level :: outer => some { p with level := level.put (p.level.height + 1), outer }

/-- Opens a group with a name, which no other group has. -/
def Progress.named (cs : List Char) (p : Progress) : Option (Progress × List Char) :=
  let name := cs.takeWhile (· ≠ '>')
  match cs.drop name.length with
  | _ :: rest =>
      if isGroupName name ∧ name ∉ p.names then
        some ({ p with names := name :: p.names }.opened p.level.modes, rest)
      else none
  | [] => none

/-- Reads what stands after an opening parenthesis. -/
def Progress.enter (cs : List Char) (p : Progress) : Option (Progress × List Char) :=
  match cs with
  | '?' :: 'P' :: '<' :: rest | '?' :: '<' :: rest => p.named rest
  | '?' :: rest => do
      let names := rest.takeWhile fun c => c ≠ ':' && c ≠ ')'
      let modes ← setModes names p.level.modes
      match rest.drop names.length with
      | ':' :: rest => return (p.opened modes, rest)
      | ')' :: rest =>
          if names = [] then none else return ({ p with level := p.level.setting modes }, rest)
      | _ => none
  | cs => some (p.opened p.level.modes, cs)

/-- Reads the next part of a pattern. -/
def Progress.next (c : Char) (rest : List Char) (p : Progress) : Option (Progress × List Char) :=
  let modes := p.level.modes
  let something (height : Nat) : Progress := { p with level := p.level.put height }
  match c with
  | '(' => p.enter (modes.skip rest)
  | ')' => p.closed?.map fun p => (p, rest)
  | '|' => some ({ p with level := p.level.branch }, rest)
  | '?' | '*' | '+' => do
      let level ← p.level.again?
      return ({ p with level }, if rest.head? = some '?' then rest.tail else rest)
  | '\x7b' => none
  | '[' => do
      let members ← openClass modes rest
      let (height, rest) ← readClass modes (members.length + 1) {} [] members
      return (something height, rest)
  | '\\' => do
      let (e, rest) ← readEscape modes rest
      if e ≠ .anchor ∧ modes.needsCases then none else return (something 0, rest)
  | '.' => if modes.bytewise then none else some (something 0, rest)
  | '^' | '$' => some (something 0, rest)
  | _ => if modes.needsCases then none else some (something 0, rest)

def Progress.isWellFormed : (fuel : Nat) → List Char → Progress → Bool
  | 0, _, _ => false
  | fuel + 1, cs, p =>
      match p.level.modes.skip cs with
      | [] => p.outer.isEmpty && p.level.height ≤ maxHeight
      | c :: rest =>
          match p.next c rest with
          | some (p, rest) => isWellFormed fuel rest p
          | none => false

def isWellFormed (pattern : List Char) : Bool :=
  Progress.isWellFormed (pattern.length + 1) pattern {}

end Pattern
end Log
end RpcHost
