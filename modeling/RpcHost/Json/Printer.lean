import RpcHost.Json.Value
import RpcHost.Decimal.Shortest

/-!
# Compact JSON text

`Value.text` writes members in the order in which the object holds them, without any blanks. Whole
numbers are written in full. Doubles are written with the fewest digits that read back, always with
a fraction or an exponent, so that they read back as doubles.
-/

namespace RpcHost
namespace Json

/-! ## Numbers -/

def integerText (i : Int) : List Char :=
  if i < 0 then '-' :: Nat.toDigits 10 i.natAbs else Nat.toDigits 10 i.toNat

/-- The places of the leading digit for which a double is written positionally. -/
structure PlaceRange where
  leastPlace : Int
  greatestPlace : Int

/-- Positional from `0.00001` up to sixteen whole digits. -/
def positionalPlaces : PlaceRange := ⟨-5, 15⟩

def positionalText (digits : List Char) (place : Int) : List Char :=
  if place < 0 then
    '0' :: '.' :: (List.replicate (-place - 1).toNat '0' ++ digits)
  else
    let whole := place.toNat + 1
    if digits.length ≤ whole then
      digits ++ List.replicate (whole - digits.length) '0' ++ ['.', '0']
    else
      digits.take whole ++ '.' :: digits.drop whole

def scientificText (digits : List Char) (place : Int) : List Char :=
  let point := if digits.length ≤ 1 then digits else digits.take 1 ++ '.' :: digits.drop 1
  let sign := if place < 0 then '-' else '+'
  point ++ 'e' :: sign :: Nat.toDigits 10 place.natAbs

def scaledText (d : Decimal.Scaled) : List Char :=
  let digits := Nat.toDigits 10 d.digits
  let place := d.exponent + digits.length - 1
  if positionalPlaces.leastPlace ≤ place ∧ place ≤ positionalPlaces.greatestPlace then
    positionalText digits place
  else scientificText digits place

/-- Infinities and not-a-number have no JSON text and are written as `null`. -/
def doubleText (x : Float) : List Char :=
  if x.isFinite then
    let body := scaledText (Decimal.Dyadic.ofBits x.toBits).shortest
    if x.toBits.toNat < 0x8000000000000000 then body else '-' :: body
  else "null".toList

def Number.text : Number → List Char
  | .integer i => integerText i
  | .double x => doubleText x

/-! ## Strings -/

def hexDigit (n : Nat) : Char :=
  if n < 10 then Char.ofNat (48 + n) else Char.ofNat (87 + n)

/-- Quotes, backslashes and control characters are escaped, all else stands for itself. -/
def charText (c : Char) : List Char :=
  match c with
  | '"' => ['\\', '"']
  | '\\' => ['\\', '\\']
  | '\x08' => ['\\', 'b']
  | '\x0c' => ['\\', 'f']
  | '\n' => ['\\', 'n']
  | '\r' => ['\\', 'r']
  | '\t' => ['\\', 't']
  | c =>
      if c.toNat < 32 then ['\\', 'u', '0', '0', hexDigit (c.toNat / 16), hexDigit (c.toNat % 16)]
      else [c]

def stringText (s : String) : List Char :=
  '"' :: (s.toList.flatMap charText ++ ['"'])

/-! ## Values -/

mutual

def Value.text : Value → List Char
  | .null => ['n', 'u', 'l', 'l']
  | .bool true => ['t', 'r', 'u', 'e']
  | .bool false => ['f', 'a', 'l', 's', 'e']
  | .number n => n.text
  | .string s => stringText s
  | .array [] => ['[', ']']
  | .array (v :: vs) => '[' :: (v.text ++ itemsText vs)
  | .object [] => ['{', '}']
  | .object ((k, v) :: ms) => '{' :: (stringText k ++ ':' :: (v.text ++ membersText ms))

/-- What follows the first item of an array. -/
def itemsText : List Value → List Char
  | [] => [']']
  | v :: vs => ',' :: (v.text ++ itemsText vs)

/-- What follows the first member of an object. -/
def membersText : List (String × Value) → List Char
  | [] => ['}']
  | (k, v) :: ms => ',' :: (stringText k ++ ':' :: (v.text ++ membersText ms))

end

def Value.render (v : Value) : String :=
  String.ofList v.text

/-! ## Writing -/

inductive WriteError where
  | refused
  deriving DecidableEq, Repr

/-- Takes a text character by character, and may refuse one. -/
structure Sink (τ : Type) where
  put : τ → Char → Except WriteError τ

/-- Memory takes whatever is written to it. -/
def Sink.memory : Sink String where
  put text c := .ok (text.push c)

/-- Writes a value from the front, up to the first character that is refused. -/
def Value.writeTo {τ : Type} (sink : Sink τ) (v : Value) (t : τ) : Except WriteError τ :=
  v.text.foldlM sink.put t

def Value.write (v : Value) : Except WriteError String :=
  v.writeTo .memory ""

/-- A sink that refuses nothing is given the whole text. -/
theorem Value.writeTo_of_takes {τ : Type} {sink : Sink τ} {next : τ → Char → τ}
    (h : ∀ t c, sink.put t c = .ok (next t c)) (v : Value) (t : τ) :
    v.writeTo sink t = .ok (v.text.foldl next t) := by
  have hput : sink.put = fun t c => pure (next t c) := funext fun t => funext (h t)
  rw [writeTo, hput, List.foldlM_pure]
  rfl

theorem foldl_push (cs : List Char) (s : String) : cs.foldl String.push s = s ++ .ofList cs := by
  induction cs generalizing s with
  | nil => simp
  | cons c cs ih =>
      rw [List.foldl_cons, ih, ← String.toList_inj]
      simp

/-- Every value can be written to memory. -/
@[simp] theorem Value.write_eq (v : Value) : v.write = .ok v.render := by
  have hput : ∀ s c, Sink.memory.put s c = .ok (s.push c) := fun _ _ => rfl
  rw [write, writeTo_of_takes hput, foldl_push, String.empty_append, render]

end Json
end RpcHost
