import RpcHost.Log.Line
import RpcHost.Log.Pattern
import RpcHost.Text.Blank

/-!
# Directives of log filters

A directive says up to which level lines pass. It may speak only for targets with a common
beginning, only for what has a certain field, or only for what happens within a span. What it says
about spans, or about the value of a field, is accepted and lets nothing through, since no line
stands in a span.
-/

namespace RpcHost
namespace Log

/-- The rank of the last level that passes; nothing passes at rank zero. -/
abbrev Limit := Nat

/-- A directive that speaks for lines. -/
structure Directive where
  target : Option String
  field : Option String
  limit : Limit
  deriving DecidableEq, Repr

/-- What a part of a filter text says. -/
inductive Clause where
  | directive (directive : Directive)
  | span
  deriving DecidableEq, Repr

def Clause.directive? : Clause → Option Directive
  | .directive d => some d
  | .span => none

/-! ## Limits -/

def limitOfName? (name : List Char) : Option Limit :=
  match String.ofList (name.map Char.toLower) with
  | "off" => some 0
  | "error" => some 1
  | "warn" => some 2
  | "info" => some 3
  | "debug" => some 4
  | "trace" => some 5
  | _ => none

/-- A number up to five, which a plus sign may precede. -/
def limitOfNumber? (cs : List Char) : Option Limit :=
  let digits := if cs.head? = some '+' then cs.tail else cs
  if digits = [] || !digits.all Char.isDigit then none
  else
    let n := digits.foldl (fun n c => 10 * n + (c.toNat - '0'.toNat)) 0
    if n ≤ 5 then some n else none

def limit? (cs : List Char) : Option Limit :=
  (limitOfNumber? cs).or (limitOfName? cs)

def everything : Limit := 5

/-- A limit may be left out after its equals sign. -/
def limitAfterEquals? (cs : List Char) : Option Limit :=
  if cs = [] then some everything else limit? cs

/-! ## Fields -/

/-- What a directive asks of a field: that it is there, or also that it has a certain value. -/
structure FieldTest where
  name : String
  hasValue : Bool
  deriving DecidableEq, Repr

/-- A decimal number without its sign, perhaps with a fraction and an exponent. -/
def isDecimal (cs : List Char) : Bool :=
  let whole := cs.takeWhile Char.isDigit
  let rest := cs.drop whole.length
  let fraction := if rest.head? = some '.' then rest.tail.takeWhile Char.isDigit else []
  let rest := if rest.head? = some '.' then rest.tail.drop fraction.length else rest
  let exponent := if rest.head? ∈ [some 'e', some 'E'] then rest.tail else ['0']
  let digits := if exponent.head? ∈ [some '+', some '-'] then exponent.tail else exponent
  (whole ≠ [] || fraction ≠ []) && digits ≠ [] && digits.all Char.isDigit
    && (rest = [] || rest.head? ∈ [some 'e', some 'E'])

def isNumber (cs : List Char) : Bool :=
  let size := if cs.head? ∈ [some '+', some '-'] then cs.tail else cs
  isDecimal size || String.ofList (size.map Char.toLower) ∈ ["inf", "infinity", "nan"]

/-- A name, and after an equals sign a number or a pattern, which ends at another equals sign. -/
def fieldTest? (cs : List Char) : Option FieldTest :=
  let name := cs.takeWhile (· ≠ '=')
  match cs.drop name.length with
  | _ :: rest =>
      let value := rest.takeWhile (· ≠ '=')
      if isNumber value || Pattern.isWellFormed value then some ⟨String.ofList name, true⟩ else none
  | [] => if name = [] then none else some ⟨String.ofList name, false⟩

/-! ## Pieces of a text

The pieces of a directive are found in its text without the blanks around it, and are then taken out
of the whole text at the same places, counted in bytes. Blanks in front therefore shift them.
-/

/-- Without so many bytes in front. A character cannot be divided. -/
def dropBytes : (size : Nat) → List Char → Option (List Char)
  | 0, cs => some cs
  | _ + 1, [] => none
  | size + 1, c :: cs =>
      if c.utf8Size ≤ size + 1 then dropBytes (size + 1 - c.utf8Size) cs else none

def takeBytes : (size : Nat) → List Char → Option (List Char)
  | 0, _ => some []
  | _ + 1, [] => none
  | size + 1, c :: cs =>
      if c.utf8Size ≤ size + 1 then (takeBytes (size + 1 - c.utf8Size) cs).map (c :: ·) else none

def piece (start stop : Nat) (cs : List Char) : Option (List Char) := do
  takeBytes (stop - start) (← dropBytes start cs)

/-! ## Reading -/

/-- Where the next character stands, and where the piece begins that it belongs to. -/
inductive Place where
  | start
  | word
  | span (start : Nat)
  | field (start : Nat)
  | afterField
  | afterSpan
  | limit (start : Nat)
  deriving DecidableEq, Repr

/-- What is known of a directive. -/
structure Draft where
  target : Option String := none
  inSpan : Bool := false
  field : Option FieldTest := none
  limit : Limit := everything
  deriving DecidableEq, Repr

/-- A directive for a span, or for the value of a field, says nothing about lines. -/
def Draft.clause (d : Draft) : Clause :=
  match d.inSpan, d.field with
  | true, _ | _, some ⟨_, true⟩ => .span
  | false, none => .directive ⟨d.target, none, d.limit⟩
  | false, some ⟨name, false⟩ => .directive ⟨d.target, some name, d.limit⟩

def startsTarget (c : Char) : Bool :=
  c ∈ ['-', ':', '_'] || Text.isAlphanumeric c

/-- Reads one character at its place. A span without a name counts only when it has no field. -/
def readChar (whole : List Char) (offset : Nat) (c : Char) :
    Place × Draft → Option (Place × Draft)
  | (.start, d) =>
      if c = '[' then some (.span (offset + 1), d)
      else if startsTarget c then some (.word, d)
      else none
  | (.word, d) => do
      if c ≠ '=' ∧ c ≠ '[' then return (.word, d)
      else
        let d := { d with target := some (String.ofList (← piece 0 offset whole)) }
        return (if c = '=' then .limit (offset + 1) else .span (offset + 1), d)
  | (.span start, d) => do
      if c = ']' then
        let _ ← piece start offset whole
        return (.afterSpan, { d with inSpan := true })
      else if c = '\x7b' then
        return (.field (offset + 1), { d with inSpan := (← piece start offset whole) ≠ [] })
      else return (.span start, d)
  | (.field start, d) => do
      if c = '\x7d' then
        let test ← piece start offset whole
        if test = [] then none
        else return (.afterField, { d with field := some (← fieldTest? test) })
      else return (.field start, d)
  | (.afterField, d) => if c = ']' then some (.afterSpan, d) else none
  | (.afterSpan, d) => if c = '=' then some (.limit (offset + 1), d) else none
  | (.limit start, d) => some (.limit start, d)

def readChars (whole : List Char) : (offset : Nat) → List Char → Place × Draft →
    Option (Place × Draft)
  | _, [], state => some state
  | offset, c :: cs, state => do
      readChars whole (offset + c.utf8Size) cs (← readChar whole offset c state)

/-- A limit alone, a target alone, or a target, a span and a field with a limit. -/
def Clause.read? (whole : List Char) : Option Clause := do
  let (place, d) ← readChars whole 0 (Text.trim whole) (.start, {})
  match place with
  | .word =>
      match limit? whole with
      | some limit => return { d with limit }.clause
      | none => return { d with target := some (String.ofList whole) }.clause
  | .limit start => return { d with limit := ← limitAfterEquals? (← dropBytes start whole) }.clause
  | .afterSpan => return d.clause
  | _ => none

end Log
end RpcHost
