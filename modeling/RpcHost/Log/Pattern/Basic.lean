import RpcHost.Text.Blank

/-!
# The parts of a pattern

Modes say how the characters of a pattern are taken. In a spaced pattern blanks and remarks stand
between the parts and mean nothing; a remark begins with a number sign and ends with its line.
Parts stand in others, and the height of a part is how many stand in one another in it.
-/

namespace RpcHost
namespace Log
namespace Pattern

/-- How the characters of a pattern are taken. -/
structure Modes where
  /-- Whether a pattern is about bytes, of which those of text alone may match. -/
  bytewise : Bool := false
  anyCase : Bool := false
  /-- Whether blanks and remarks mean nothing. -/
  spaced : Bool := false
  deriving DecidableEq, Repr

/-- The cases of a character that is not a byte are a property of all characters. -/
def Modes.needsCases (modes : Modes) : Bool :=
  modes.anyCase && !modes.bytewise

/-! ## Blanks and remarks -/

/-- Passes over blanks and remarks, possibly from within a remark on. -/
def skipBlanks (inRemark : Bool) : List Char → List Char
  | [] => []
  | c :: cs =>
      if inRemark then skipBlanks (c ≠ '\n') cs
      else if Text.isBlank c then skipBlanks false cs
      else if c = '#' then skipBlanks true cs
      else c :: cs

/-- What stands next. -/
def Modes.skip (modes : Modes) (cs : List Char) : List Char :=
  if modes.spaced then skipBlanks false cs else cs

/-- The character that a dash looks ahead to. It passes over the sign of a remark, but not over the
remark itself. -/
def Modes.ahead? (modes : Modes) (cs : List Char) : Option Char :=
  if modes.spaced then
    let next := cs.dropWhile Text.isBlank
    (if next.head? = some '#' then next.tail.dropWhile Text.isBlank else next).head?
  else cs.head?

/-! ## Heights -/

/-- The height of parts side by side. One part stands for itself, several stand in a part that
holds them. -/
def jointHeight : List Nat → Nat
  | [] => 0
  | [height] => height
  | heights => heights.foldr max 0 + 1

/-- No pattern is higher. -/
def maxHeight : Nat := 250

end Pattern
end Log
end RpcHost
