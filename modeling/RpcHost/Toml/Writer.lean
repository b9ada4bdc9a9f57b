import RpcHost.Toml.StringForm

/-!
# Writing TOML sections

A written document is a list of sections, each a header with its statements, and blank lines between
them. Only values without parts are written.
-/

namespace RpcHost
namespace Toml

inductive Scalar where
  | string (value : String)
  | integer (value : Int)
  | boolean (value : Bool)
  deriving DecidableEq, Repr

/-- Integers beyond the signed 64-bit words cannot be written. -/
def Scalar.text? : Scalar → Option String
  | .string s => some (stringText s)
  | .integer i =>
      if -0x8000000000000000 ≤ i ∧ i < 0x8000000000000000 then some (toString i) else none
  | .boolean b => some (if b then "true" else "false")

structure Section where
  name : String
  statements : List (String × Scalar)
  deriving DecidableEq, Repr

def statementText? (key : String) (value : Scalar) : Option String :=
  value.text?.map fun text => key ++ " = " ++ text ++ "\n"

def Section.text? (s : Section) : Option String := do
  let lines ← s.statements.mapM fun (key, value) => statementText? key value
  return "[" ++ s.name ++ "]\n" ++ String.join lines

def write? (sections : List Section) : Option String := do
  let texts ← sections.mapM Section.text?
  return "\n".intercalate texts

end Toml
end RpcHost
