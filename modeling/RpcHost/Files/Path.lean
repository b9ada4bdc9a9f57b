/-!
# Paths

A path is kept as it was written, since that is how messages show it. Its steps are what stands
between slashes.
-/

namespace RpcHost
namespace Files

/-- One step along a path. -/
inductive Step where
  | stay
  | up
  | down (name : String)
  deriving DecidableEq, Repr

def Step.ofName (name : String) : Step :=
  if name = "." then .stay else if name = ".." then .up else .down name

structure Path where
  text : String
  deriving DecidableEq, Repr

namespace Path

def isAbsolute (p : Path) : Bool :=
  p.text.toList.head? = some '/'

/-- A slash at the end asks for a directory. -/
def endsInSlash (p : Path) : Bool :=
  p.text.toList.getLast? = some '/'

def steps (p : Path) : List Step :=
  ((p.text.toList.splitOn '/').filter (· ≠ [])).map (Step.ofName ∘ String.ofList)

/-- What stands between slashes and leads nowhere. -/
def isIdle (piece : List Char) : Bool :=
  piece = [] || piece = ['.']

/-- Without the last piece that leads somewhere, and without the idle ones around it. -/
def dropLastPiece (pieces : List (List Char)) : List (List Char) :=
  ((pieces.reverse.dropWhile isIdle).tail.dropWhile isIdle).reverse

/-- The path without its last part. A dot is a part only at the start. -/
def parent? (p : Path) : Option Path :=
  let pieces := p.text.toList.splitOn '/'
  let joined (pieces : List (List Char)) : Path := ⟨String.ofList (['/'].intercalate pieces)⟩
  match pieces with
  | [] | [[]] => none
  | [] :: below =>
      if below.all isIdle then none
      else if dropLastPiece below = [] then some ⟨"/"⟩
      else some (joined ([] :: dropLastPiece below))
  | ['.'] :: below =>
      if below.all isIdle then some ⟨""⟩ else some (joined (['.'] :: dropLastPiece below))
  | pieces => some (joined (dropLastPiece pieces))

/-- A name below a path. -/
def join (p : Path) (name : String) : Path :=
  if p.text = "" ∨ p.endsInSlash then ⟨p.text ++ name⟩ else ⟨p.text ++ "/" ++ name⟩

end Path

/-- A place in the file system: the names that lead to it from the root, the innermost first. -/
abbrev Location := List String

def Location.path (place : Location) : Path :=
  ⟨"/" ++ "/".intercalate place.reverse⟩

/-- The place itself and all that are above it. -/
def Location.ancestors : Location → List Location
  | [] => [[]]
  | name :: up => (name :: up) :: ancestors up

end Files
end RpcHost
