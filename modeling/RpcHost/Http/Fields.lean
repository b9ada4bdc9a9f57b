import RpcHost.Http.Message

/-!
# Fields as they arrive

A field stands on a line of its own: a name, a colon, and a value between blanks. An empty line ends
the fields. The bytes are checked in the order in which they arrive, so that a bad byte is refused
even when more would have to follow.
-/

namespace RpcHost
namespace Http

def cr : UInt8 := 13
def lf : UInt8 := 10
def blank : UInt8 := 32
def tab : UInt8 := 9

/-- Why no head can be read. -/
inductive Stop where
  /-- More bytes are needed. -/
  | unfinished
  | refused (status : Status)
  deriving DecidableEq, Repr

/-! ## Bytes -/

def isTokenByte (b : UInt8) : Bool :=
  b < 128 && isTokenChar (Char.ofNat b.toNat)

def isBlankByte (b : UInt8) : Bool :=
  b = blank || b = tab

def malformed {α : Type} : Except Stop α :=
  .error (.refused .badRequest)

def readLineEnd : Bytes → Except Stop Bytes
  | [] => .error .unfinished
  | [13] => .error .unfinished
  | 13 :: 10 :: rest => .ok rest
  | 10 :: rest => .ok rest
  | _ => malformed

/-- A run of bytes of a class, at least one, with one certain byte after it. -/
def readRun (belongs : UInt8 → Bool) (after : UInt8) (bytes : Bytes) :
    Except Stop (Bytes × Bytes) :=
  let run := bytes.takeWhile belongs
  match bytes.drop run.length with
  | [] => .error .unfinished
  | b :: rest => if b = after ∧ run ≠ [] then .ok (run, rest) else malformed

/-! ## Fields -/

/-- A field value up to the end of its line, without the blanks around it. -/
def readValue (bytes : Bytes) : Except Stop (Bytes × Bytes) := do
  let bytes := bytes.dropWhile isBlankByte
  let value := bytes.takeWhile isValueByte
  let rest ← readLineEnd (bytes.drop value.length)
  return ((value.reverse.dropWhile isBlankByte).reverse, rest)

/-- Fields up to the empty line; `room` is how many there may still be. -/
def readFields : (room : Nat) → Bytes → Except Stop (List Field × Bytes)
  | room, bytes =>
      match bytes with
      | [] => .error .unfinished
      | b :: _ =>
          if b = cr ∨ b = lf then (readLineEnd bytes).map fun rest => ([], rest)
          else do
            let (name, rest) ← readRun isTokenByte 58 bytes
            let (value, rest) ← readValue rest
            match room with
            | 0 => .error (.refused .headTooLarge)
            | room + 1 => do
                let (fields, rest) ← readFields room rest
                let name := lowerCase (String.ofList (name.map fun b => Char.ofNat b.toNat))
                return (⟨name, value⟩ :: fields, rest)

end Http
end RpcHost
