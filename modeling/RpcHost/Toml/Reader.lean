import RpcHost.Toml.Scan

/-!
# Reading TOML documents

A document is a sequence of statements. Each header moves to another table, each other statement
adds a value to the table of the last header. `statements` reads them, and `read` carries them out
and gives the whole document as one table.
-/

namespace RpcHost
namespace Toml

/-! ## Values -/

def readBoolean : List Char → Option (Value × List Char)
  | 't' :: 'r' :: 'u' :: 'e' :: rest => some (.boolean true, rest)
  | 'f' :: 'a' :: 'l' :: 's' :: 'e' :: rest => some (.boolean false, rest)
  | _ => none

/-- A value without parts, told apart by its first character. -/
def readPlain (cs : List Char) : Option (Value × List Char) :=
  match cs with
  | [] => none
  | c :: _ =>
      if c = '"' ∨ c = '\'' then (readString cs).map fun (s, rest) => (.string s, rest)
      else if c = 't' ∨ c = 'f' then readBoolean cs
      else readNumeric cs

/-- The parents of the last name of a key, and that name. -/
def splitKey (path : Path) : Option (Path × String) :=
  path.getLast?.map fun name => (path.dropLast, name)

mutual

/-- A value. `levels` says how many arrays and inline tables may still be nested. -/
def readValue (fuel levels : Nat) (cs : List Char) : Option (Value × List Char) :=
  match fuel, cs with
  | 0, _ => none
  | fuel + 1, '[' :: rest =>
      match levels with
      | 0 => none
      | levels + 1 => do
          let (items, rest) ← readItems fuel levels [] rest
          return (.array items, rest)
  | fuel + 1, '\x7b' :: rest =>
      match levels with
      | 0 => none
      | levels + 1 =>
          match skipBlanks rest with
          | '\x7d' :: rest => some (.table [], rest)
          | rest => do
              let (table, rest) ← readPairs fuel levels (.empty .header) rest
              return (table.toValue, rest)
  | _ + 1, cs => readPlain cs

/-- The items of an array after its bracket or a comma. A comma may stand after the last item. -/
def readItems (fuel levels : Nat) (acc : List Value) (cs : List Char) :
    Option (List Value × List Char) :=
  match fuel with
  | 0 => none
  | fuel + 1 =>
      match skipLines fuel cs with
      | ']' :: rest => some (acc.reverse, rest)
      | cs => do
          let (item, cs) ← readValue fuel levels cs
          match skipLines fuel cs with
          | ',' :: rest => readItems fuel levels (item :: acc) rest
          | ']' :: rest => some ((item :: acc).reverse, rest)
          | _ => none

/-- The pairs of an inline table after its brace or a comma, all on one line. -/
def readPairs (fuel levels : Nat) (table : Table) (cs : List Char) :
    Option (Table × List Char) :=
  match fuel with
  | 0 => none
  | fuel + 1 => do
      let (path, cs) ← readKey cs
      let cs ← readChar '=' cs
      let (parents, name) ← splitKey path
      let (v, cs) ← readValue fuel levels (skipBlanks cs)
      let table ← table.assign parents name v
      match skipBlanks cs with
      | ',' :: rest => readPairs fuel levels table rest
      | '\x7d' :: rest => some (table, rest)
      | _ => none

end

/-- How deep arrays and inline tables nest at most. -/
def greatestLevels : Nat := nestingLimit - 1

/-! ## Statements -/

/-- The header of a table, that of an element of an array of tables, or a key with its value. -/
inductive Statement where
  | table (path : Path)
  | element (path : Path)
  | assign (path : Path) (value : Value)
  deriving Repr

/-- A statement with the end of its line. -/
def readStatement : List Char → Option (Statement × List Char)
  | '[' :: '[' :: cs => do
      let (path, cs) ← readKey cs
      let cs ← readChar ']' cs
      let cs ← readChar ']' cs
      return (.element path, ← endStatement cs)
  | '[' :: cs => do
      let (path, cs) ← readKey cs
      let cs ← readChar ']' cs
      return (.table path, ← endStatement cs)
  | cs => do
      let (path, cs) ← readKey cs
      let cs ← readChar '=' cs
      let (v, cs) ← readValue (2 * cs.length + 2) greatestLevels (skipBlanks cs)
      return (.assign path v, ← endStatement cs)

/-- All statements. A line may also be blank or hold a comment alone. `fuel` bounds the lines. -/
def readStatements : (fuel : Nat) → List Char → Option (List Statement)
  | 0, _ => none
  | fuel + 1, cs =>
      match skipBlanks cs with
      | [] => some []
      | cs =>
          match endStatement cs with
          | some rest => readStatements fuel rest
          | none => do
              let (st, rest) ← readStatement cs
              return st :: (← readStatements fuel rest)

/-- A byte order mark at the start is no part of the document. -/
def dropMark : List Char → List Char
  | '\uFEFF' :: cs => cs
  | cs => cs

/-- The statements of a text, in their order. -/
def statements (text : String) : Option (List Statement) :=
  let cs := dropMark text.toList
  readStatements (cs.length + 1) cs

/-! ## Documents -/

/-- A document in the making, and the table that the last header opened. -/
structure Draft where
  root : Table
  opened : Path
  deriving Repr, Inhabited

namespace Draft

def empty : Draft := ⟨.empty .header, []⟩

def openTable (path : Path) (d : Draft) : Option Draft := do
  let (parents, name) ← splitKey path
  let root ← d.root.descend false (·.openHere name) parents
  return ⟨root, path⟩

def openElement (path : Path) (d : Draft) : Option Draft := do
  let (parents, name) ← splitKey path
  let root ← d.root.descend false (·.pushHere name) parents
  return ⟨root, path⟩

def assign (path : Path) (v : Value) (d : Draft) : Option Draft := do
  let (parents, name) ← splitKey path
  let root ← d.root.descend false (·.assign parents name v) d.opened
  return { d with root := root }

def carryOut (d : Draft) : Statement → Option Draft
  | .table path => d.openTable path
  | .element path => d.openElement path
  | .assign path v => d.assign path v

end Draft

/-- The document that the statements of a text make, one after the other. -/
def read (text : String) : Option Value := do
  let stmts ← statements text
  let d ← stmts.foldlM Draft.carryOut .empty
  return d.root.toValue

end Toml
end RpcHost
