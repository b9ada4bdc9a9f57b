import RpcHost.Toml.Reader

/-!
# What the statements of a document write

Each statement of a document has a place, which is the full path of what it opens or assigns. A
document writes a value at a path when one of its statements assigns it there, be it as part of an
inline table.
-/

namespace RpcHost
namespace Toml

/-! ## Documents -/

/-- The text is a TOML document, and these are its statements. -/
structure IsDocument (text : String) (stmts : List Statement) : Prop where
  statements : statements text = some stmts
  readable : (stmts.foldlM Draft.carryOut .empty).isSome = true

/-- Sections, each with its header and its keys with their values. -/
def sectionStatements (sections : List (String × List (String × Value))) : List Statement :=
  sections.flatMap fun s => .table [s.1] :: s.2.map fun e => .assign [e.1] e.2

/-! ## Places -/

/-- What is found at a path of tables within a value. -/
def Value.at? : Path → Value → Option Value
  | [], v => some v
  | name :: path, .table entries => (Entries.find? name entries).bind (at? path)
  | _ :: _, _ => none

/-- The full path of what a statement opens or assigns, after the header that stands before it. -/
def Statement.place (opened : Path) : Statement → Path
  | .table path => path
  | .element path => path
  | .assign path _ => opened ++ path

/-- The path of the table that is open after a statement. -/
def Statement.opens (opened : Path) : Statement → Path
  | .table path => path
  | .element path => path
  | .assign _ _ => opened

def placed (opened : Path) : List Statement → List (Path × Statement)
  | [] => []
  | st :: rest => (st.place opened, st) :: placed (st.opens opened) rest

/-- The statement, at its place, assigns a value that has this one at the path. -/
inductive Statement.WritesAt (path : Path) (v : Value) : Path × Statement → Prop where
  | assign {place key inner : Path} {whole : Value} (hpath : path = place ++ inner)
      (hv : whole.at? inner = some v) : WritesAt path v (place, .assign key whole)

/-- The statement, at its place, makes something at the path or below it. -/
inductive Statement.Reaches (path : Path) : Path × Statement → Prop where
  | below {place : Path} {st : Statement} (hpath : path <+: place) : Reaches path (place, st)
  | inside {v : Value} {p : Path × Statement} (hv : WritesAt path v p) : Reaches path p

def Writes (stmts : List Statement) (path : Path) (v : Value) : Prop :=
  ∃ p ∈ placed [] stmts, Statement.WritesAt path v p

def Reaches (stmts : List Statement) (path : Path) : Prop :=
  ∃ p ∈ placed [] stmts, Statement.Reaches path p

/-- No table on the way is an element of an array. -/
def NoElements (stmts : List Statement) (path : Path) : Prop :=
  ∀ place, .element place ∈ stmts → ¬ place <+: path

end Toml
end RpcHost
