import RpcHost.Log.Directive

/-!
# Log filters

A filter is a list of directives. Of those that speak for a line the one with the longest target
decides, of two with one target the one that asks for a field, and of two alike the later one. A
line for which none speaks does not pass.
-/

namespace RpcHost
namespace Log

abbrev Filter := List Directive

/-! ## Reading -/

/-- Parts between commas. A text without parts lets errors through. -/
def Filter.read? (text : String) : Option Filter := do
  let parts := (text.toList.splitOn ',').filter (· ≠ [])
  let clauses ← parts.mapM Clause.read?
  if clauses = [] then some [⟨none, none, Level.error.rank⟩]
  else return clauses.filterMap Clause.directive?

/-- The filter for a debug level. -/
def Filter.ofDebugLevel (level : UInt8) : Filter :=
  [⟨none, none, if level = 0 then Level.info.rank else if level = 1 then Level.debug.rank
    else Level.trace.rank⟩]

/-! ## Filtering -/

def Directive.speaksFor (d : Directive) (line : Line) : Bool :=
  (match d.target with
    | none => true
    | some target => target.toList.isPrefixOf line.target.toList)
  && (match d.field with
    | none => true
    | some field => field ∈ line.fields)

/-- How closely a directive describes the lines that it speaks for. -/
def Directive.weight (d : Directive) : Nat :=
  let target := match d.target with
    | none => 0
    | some target => target.utf8ByteSize + 1
  2 * target + (if d.field.isSome then 1 else 0)

/-- The directive of the greatest weight, and of equal ones the last. -/
def heaviest : List Directive → Option Directive
  | [] => none
  | d :: rest =>
      match heaviest rest with
      | none => some d
      | some best => if best.weight < d.weight then some d else some best

def Filter.limitFor (line : Line) (f : Filter) : Limit :=
  match heaviest (f.filter (·.speaksFor line)) with
  | some d => d.limit
  | none => 0

def Filter.allows (f : Filter) (line : Line) : Bool :=
  line.level.rank ≤ f.limitFor line

end Log
end RpcHost
