import RpcHost.Json.Skip

/-!
# Records

A record is an object whose keys are known, each with a kind of value. It may also stand as an array
of its fields in the order of its layout. `slots` takes it apart when it is a value already, and
`scanRecord` when it is still text; both give the fields in the order of the layout.
-/

namespace RpcHost
namespace Json

inductive FieldKind where
  /-- A string. -/
  | text
  /-- A whole number in the range of signed 64-bit words. -/
  | word
  | any
  deriving DecidableEq, Repr

structure Field where
  name : String
  kind : FieldKind
  required : Bool
  deriving DecidableEq, Repr

abbrev Layout := List Field

/-- One entry for each field of the layout; `none` for a field that is left out. -/
abbrev Slots := List (Option Value)

/-! ## From a value -/

/-- Whether a value may stand in a field of this kind. -/
def FieldKind.accepts : FieldKind → Value → Bool
  | .text, .string _ => true
  | .word, .number (.integer i) => -0x8000000000000000 ≤ i && i < 0x8000000000000000
  | .any, _ => true
  | _, _ => false

def Field.admits (f : Field) : Option Value → Bool
  | some v => f.kind.accepts v
  | none => !f.required

/-- The fields by key, or by place when the record stands as an array that is not too long. -/
def pick (layout : Layout) : Value → Option Slots
  | .object members => some (layout.map fun f => Entries.find? f.name members)
  | .array items =>
      if items.length ≤ layout.length then
        some (items.map some ++ List.replicate (layout.length - items.length) none)
      else none
  | _ => none

def slots (layout : Layout) (v : Value) : Option Slots :=
  (pick layout v).filter fun found => (layout.zip found).all fun p => p.1.admits p.2

/-! ## From text -/

/-- The complaint about a value of another kind: its own fault if it is a faulty scalar. -/
def otherKind {α : Type} (cs : List Char) : Except ReadError α :=
  match cs with
  | '[' :: _ => .error .mismatched
  | '{' :: _ => .error .mismatched
  | cs =>
      match scanScalar cs with
      | .ok _ => .error .mismatched
      | .error e => .error e

def scanText (cs : List Char) : Except ReadError (Value × List Char) :=
  match skipBlanks cs with
  | '"' :: rest => (scanString [] rest).map fun (s, rest) => (.string s, rest)
  | cs => otherKind cs

def scanWord (cs : List Char) : Except ReadError (Value × List Char) :=
  match skipBlanks cs with
  | [] => .error .ended
  | c :: rest =>
      if c = '-' ∨ c.isDigit then do
        let (n, rest) ← scanNumber (c :: rest)
        if FieldKind.word.accepts (.number n) then .ok (.number n, rest) else .error .mismatched
      else otherKind (c :: rest)

def scanAny (depth : Nat) (cs : List Char) : Except ReadError (Value × List Char) :=
  scanValue (enoughFuel cs) depth cs

/-- How the text of one field is read, given how many containers may still be opened. -/
abbrev FieldScan := Nat → List Char → Except ReadError (Value × List Char)

def FieldKind.scan : FieldKind → FieldScan
  | .text => fun _ cs => scanText cs
  | .word => fun _ cs => scanWord cs
  | .any => scanAny

/-- The place of a key in a layout. -/
def Layout.place? (layout : Layout) (key : String) : Option Nat :=
  layout.findIdx? (·.name = key)

/-- All fields that the layout requires are there. -/
def complete (layout : Layout) (found : Slots) : Bool :=
  (layout.zip found).all fun p => p.2.isSome || !p.1.required

/-- The fields of a record that stands as an array, after its opening bracket. -/
def scanPlaces (scan : Field → FieldScan) (depth : Nat) :
    Layout → (first : Bool) → List Char → Except ReadError (Slots × List Char)
  | [], _, cs =>
      match skipBlanks cs with
      | [] => .error .ended
      | ']' :: rest => .ok ([], rest)
      | _ :: _ => .error .malformed
  | f :: layout, first, cs =>
      match skipBlanks cs with
      | [] => .error .ended
      | ']' :: rest =>
          if (f :: layout).all (!·.required) then
            .ok (List.replicate (layout.length + 1) none, rest)
          else .error .mismatched
      | c :: rest =>
          if first then next f layout (c :: rest)
          else if c = ',' then
            match skipBlanks rest with
            | [] => .error .ended
            | ']' :: _ => .error .malformed
            | rest => next f layout rest
          else .error .malformed
where
  next (f : Field) (layout : Layout) (cs : List Char) : Except ReadError (Slots × List Char) :=
    match scan f depth cs with
    | .error e => .error e
    | .ok (v, rest) =>
        match scanPlaces scan depth layout false rest with
        | .error e => .error e
        | .ok (found, rest) => .ok (some v :: found, rest)

/-- The members that are left of a record, from a key on, put to the fields found so far. A key of
the layout may come once; the values of other keys are passed over. -/
def scanFields (scan : Field → FieldScan) (layout : Layout) (depth : Nat) :
    (fuel : Nat) → Slots → List Char → Except ReadError (Slots × List Char)
  | 0, _, _ => .error .malformed
  | fuel + 1, found, cs => do
      let (key, rest) ← match cs with
        | [] => .error .ended
        | '"' :: rest => scanString [] rest
        | _ :: _ => .error .malformed
      let place := layout.place? key
      if (place.bind (found[·]?)).join.isSome then .error .mismatched
      else
        let rest ← match skipBlanks rest with
          | [] => .error .ended
          | ':' :: rest => .ok rest
          | _ :: _ => .error .malformed
        let (found, rest) ← match place.bind fun i => (layout[i]?).map fun f => (i, f) with
          | some (i, f) => (scan f depth rest).map fun (v, rest) => (found.set i (some v), rest)
          | none => (skip rest).map fun rest => (found, rest)
        match skipBlanks rest with
        | [] => .error .ended
        | '}' :: rest => if complete layout found then .ok (found, rest) else .error .mismatched
        | ',' :: rest => scanFields scan layout depth fuel found (skipBlanks rest)
        | _ :: _ => .error .malformed

/-- A record after any blanks. -/
def scanRecord (scan : Field → FieldScan) (layout : Layout) (depth : Nat) (cs : List Char) :
    Except ReadError (Slots × List Char) :=
  match skipBlanks cs with
  | [] => .error .ended
  | '[' :: rest =>
      if depth = 0 then .error .malformed else scanPlaces scan (depth - 1) layout true rest
  | '{' :: rest =>
      if depth = 0 then .error .malformed
      else
        let none_found : Slots := List.replicate layout.length none
        match skipBlanks rest with
        | '}' :: rest =>
            if complete layout none_found then .ok (none_found, rest) else .error .mismatched
        | rest => scanFields scan layout (depth - 1) (rest.length + 1) none_found rest
  | cs => otherKind cs

end Json
end RpcHost
