import RpcHost.Entries

/-!
# TOML values and tables

Values keep only what a reader of a configuration can ask for: floats and date-times stay in the
spelling in which they were written. While a document is put together, a table also remembers how it
came about, since that decides who may still add to it.
-/

namespace RpcHost
namespace Toml

inductive Value where
  | string (value : String)
  | integer (value : Int)
  | float (spelling : String)
  | boolean (value : Bool)
  | datetime (spelling : String)
  | array (items : List Value)
  | table (entries : List (String × Value))
  deriving Repr, Inhabited

/-- How a table came about. -/
inductive Origin where
  /-- By a header of its own, or as the document itself. -/
  | header
  /-- As the parent of a table that has a header. -/
  | implied
  /-- By a dotted key. -/
  | dotted
  deriving DecidableEq, Repr, Inhabited

inductive Node where
  | value (value : Value)
  | table (origin : Origin) (entries : List (String × Node))
  /-- An array of tables: the earlier ones, and the one that is still open. -/
  | tables (earlier : List Node) (origin : Origin) (entries : List (String × Node))
  deriving Repr, Inhabited

structure Table where
  origin : Origin
  entries : Entries Node
  deriving Repr, Inhabited

def Table.empty (origin : Origin) : Table := ⟨origin, []⟩

/-- A key is one or more names. -/
abbrev Path := List String

/-! ## Extending tables -/

namespace Table

def put (name : String) (node : Node) (t : Table) : Table :=
  { t with entries := Entries.insert name node t.entries }

/-- Applies `act` to the table at a path. Missing tables on the way come into being; an array of
tables stands for its open element. A dotted key does not enter tables that have a header. -/
def descend (dotted : Bool) (act : Table → Option Table) : Path → Table → Option Table
  | [], t => act t
  | name :: path, t =>
      match Entries.find? name t.entries with
      | none => do
          let inner ← descend dotted act path (.empty (if dotted then .dotted else .implied))
          return t.put name (.table inner.origin inner.entries)
      | some (.value _) => none
      | some (.tables earlier origin entries) => do
          let inner ← descend dotted act path ⟨origin, entries⟩
          return t.put name (.tables earlier inner.origin inner.entries)
      | some (.table origin entries) =>
          if dotted ∧ origin = .header then none
          else do
            let inner ← descend dotted act path ⟨origin, entries⟩
            return t.put name (.table inner.origin inner.entries)

/-- Gives a table a value under a new name. Only the table at the end of a dotted path may be one
that dotted keys made, and it has to be. -/
def assignHere (direct : Bool) (name : String) (v : Value) (t : Table) : Option Table :=
  if (t.origin = .dotted) = direct then none
  else if Entries.contains name t.entries then none
  else some (t.put name (.value v))

/-- A key with its value, in the table itself or below it. -/
def assign (path : Path) (name : String) (v : Value) (t : Table) : Option Table :=
  t.descend true (assignHere path.isEmpty name v) path

/-- Opens the table of a header. Only a table that was merely implied may be there already. -/
def openHere (name : String) (t : Table) : Option Table :=
  match Entries.find? name t.entries with
  | none => some (t.put name (.table .header []))
  | some (.table .implied entries) => some (t.put name (.table .header entries))
  | some _ => none

/-- Opens a new element of an array of tables. -/
def pushHere (name : String) (t : Table) : Option Table :=
  match Entries.find? name t.entries with
  | none => some (t.put name (.tables [] .header []))
  | some (.tables earlier origin entries) =>
      some (t.put name (.tables (earlier ++ [.table origin entries]) .header []))
  | some _ => none

end Table

/-! ## Finished values -/

mutual

def Node.toValue : Node → Value
  | .value v => v
  | .table _ entries => .table (toEntries entries)
  | .tables earlier _ entries => .array (toItems earlier ++ [.table (toEntries entries)])

def toEntries : List (String × Node) → List (String × Value)
  | [] => []
  | (k, n) :: rest => (k, n.toValue) :: toEntries rest

def toItems : List Node → List Value
  | [] => []
  | n :: rest => n.toValue :: toItems rest

end

def Table.toValue (t : Table) : Value :=
  .table (toEntries t.entries)

end Toml
end RpcHost
