import RpcHost.Rpc.Dispatcher
import RpcHost.Text.Quoted

/-!
# Method tables

A table sends each request to the method registered under its name. Every registration has a state
of its own, which only the calls of that method can change; a new registration under the same name
replaces the old one together with its state.
-/

namespace RpcHost
namespace Rpc

structure Method (τ : Type) where
  state : τ
  run : Dispatcher τ

abbrev MethodTable (τ : Type) := Entries (Method τ)

namespace Method

variable {τ : Type}

def call (m : Method τ) (r : Request) : Outcome × Method τ :=
  let (outcome, state) := m.run r m.state
  (outcome, { m with state := state })

def stateless (state : τ) (run : Request → Outcome) : Method τ :=
  ⟨state, .pure run⟩

end Method

namespace MethodTable

variable {τ : Type}

def register (name : String) (m : Method τ) (table : MethodTable τ) : MethodTable τ :=
  Entries.insert name m table

def contains (name : String) (table : MethodTable τ) : Bool :=
  Entries.contains name table

/-- The registered names in ascending order. -/
def names (table : MethodTable τ) : List String :=
  Entries.keys table

def serve : Dispatcher (MethodTable τ) := fun r table =>
  match Entries.find? r.method table with
  | some m =>
      let (outcome, m) := m.call r
      (outcome, Entries.insert r.method m table)
  | none => (unknownMethod r, table)

/-- The table on one line: its quoted names between braces. -/
def display (table : MethodTable τ) : String :=
  "MethodTable \x7b methods: [" ++ ", ".intercalate ((names table).map Text.quoted) ++ "] \x7d"

/-- The methods that are there from the start. -/
def builtin (state : τ) : MethodTable τ :=
  ([] : MethodTable τ)
    |> register "ping" (.stateless state ping)
    |> register "echo" (.stateless state echo)
    |> register "build_info" (.stateless state buildInfo)
    |> register "unimplemented" (.stateless state unimplemented)

end MethodTable
end Rpc
end RpcHost
