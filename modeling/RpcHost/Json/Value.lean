import RpcHost.Entries

/-!
# JSON values

An object holds its members as `Entries`, so `Value.Ordered` says that every object inside a value
has strictly ascending keys. Whole numbers keep their exact value, every other number is a double.
-/

namespace RpcHost
namespace Json

inductive Number where
  | integer (value : Int)
  | double (value : Float)
  deriving DecidableEq, Repr

/-- Whole, and within the range of signed or of unsigned 64-bit words. -/
def Number.IsWord : Number → Prop
  | .integer i => -0x8000000000000000 ≤ i ∧ i < 0x10000000000000000
  | .double _ => False

inductive Value where
  | null
  | bool (value : Bool)
  | number (value : Number)
  | string (value : String)
  | array (items : List Value)
  | object (members : List (String × Value))
  deriving Repr, Inhabited

abbrev Members := Entries Value

namespace Value

/-! ## Equality -/

mutual

def decEq : (a b : Value) → Decidable (a = b)
  | .null, .null => isTrue rfl
  | .bool a, .bool b => if h : a = b then isTrue (h ▸ rfl) else isFalse (by simp [h])
  | .number a, .number b => if h : a = b then isTrue (h ▸ rfl) else isFalse (by simp [h])
  | .string a, .string b => if h : a = b then isTrue (h ▸ rfl) else isFalse (by simp [h])
  | .array a, .array b =>
      match decEqItems a b with
      | isTrue h => isTrue (h ▸ rfl)
      | isFalse h => isFalse (by simp [h])
  | .object a, .object b =>
      match decEqMembers a b with
      | isTrue h => isTrue (h ▸ rfl)
      | isFalse h => isFalse (by simp [h])
  | .null, .bool _ | .null, .number _ | .null, .string _ | .null, .array _ | .null, .object _
  | .bool _, .null | .bool _, .number _ | .bool _, .string _ | .bool _, .array _
  | .bool _, .object _ | .number _, .null | .number _, .bool _ | .number _, .string _
  | .number _, .array _ | .number _, .object _ | .string _, .null | .string _, .bool _
  | .string _, .number _ | .string _, .array _ | .string _, .object _ | .array _, .null
  | .array _, .bool _ | .array _, .number _ | .array _, .string _ | .array _, .object _
  | .object _, .null | .object _, .bool _ | .object _, .number _ | .object _, .string _
  | .object _, .array _ => isFalse (by simp)

def decEqItems : (a b : List Value) → Decidable (a = b)
  | [], [] => isTrue rfl
  | [], _ :: _ => isFalse (by simp)
  | _ :: _, [] => isFalse (by simp)
  | a :: as, b :: bs =>
      match decEq a b, decEqItems as bs with
      | isTrue h, isTrue hs => isTrue (h ▸ hs ▸ rfl)
      | isFalse h, _ => isFalse (by simp [h])
      | _, isFalse h => isFalse (by simp [h])

def decEqMembers : (a b : List (String × Value)) → Decidable (a = b)
  | [], [] => isTrue rfl
  | [], _ :: _ => isFalse (by simp)
  | _ :: _, [] => isFalse (by simp)
  | (k, a) :: as, (l, b) :: bs =>
      if hk : k = l then
        match decEq a b, decEqMembers as bs with
        | isTrue h, isTrue hs => isTrue (hk ▸ h ▸ hs ▸ rfl)
        | isFalse h, _ => isFalse (by simp [h])
        | _, isFalse h => isFalse (by simp [h])
      else isFalse (by simp [hk])

end

instance : DecidableEq Value := decEq

/-! ## Parts of a value -/

def ofMembers (members : List (String × Value)) : Value :=
  .object (Entries.ofList members)

def member? (key : String) : Value → Option Value
  | .object members => Entries.find? key members
  | _ => none

def asString? : Value → Option String
  | .string s => some s
  | _ => none

def isContainer : Value → Bool
  | .array _ | .object _ => true
  | _ => false

/-! ## Shape of a value -/

mutual

/-- Every object inside the value has strictly ascending keys. -/
def Ordered : Value → Prop
  | .array items => OrderedItems items
  | .object members => Entries.Ascending members ∧ OrderedMembers members
  | _ => True

def OrderedItems : List Value → Prop
  | [] => True
  | v :: vs => Ordered v ∧ OrderedItems vs

def OrderedMembers : List (String × Value) → Prop
  | [] => True
  | (_, v) :: ms => Ordered v ∧ OrderedMembers ms

end

mutual

/-- The number of containers on the longest path from the value inwards. -/
def depth : Value → Nat
  | .array items => depthItems items + 1
  | .object members => depthMembers members + 1
  | _ => 0

def depthItems : List Value → Nat
  | [] => 0
  | v :: vs => max (depth v) (depthItems vs)

def depthMembers : List (String × Value) → Nat
  | [] => 0
  | (_, v) :: ms => max (depth v) (depthMembers ms)

end

mutual

/-- Every number inside the value is a 64-bit word. -/
def WordNumbers : Value → Prop
  | .number n => n.IsWord
  | .array items => WordNumbersItems items
  | .object members => WordNumbersMembers members
  | _ => True

def WordNumbersItems : List Value → Prop
  | [] => True
  | v :: vs => WordNumbers v ∧ WordNumbersItems vs

def WordNumbersMembers : List (String × Value) → Prop
  | [] => True
  | (_, v) :: ms => WordNumbers v ∧ WordNumbersMembers ms

end

end Value
end Json
end RpcHost
