import RpcHost.Json.Amount
import RpcHost.Text.Utf8

/-!
# Reading JSON values

`read` accepts one value between blanks. Containers nest at most `greatestDepth` levels. Of two
members with one key the later one stays.
-/

namespace RpcHost
namespace Json

/-- How many containers may enclose one another. -/
def greatestDepth : Nat := 127

/-- A value other than a container, from its first character on. -/
def scanScalar (cs : List Char) : Except ReadError (Value × List Char) :=
  match cs with
  | [] => .error .ended
  | 'n' :: rest => (scanExactly ['u', 'l', 'l'] rest).map fun rest => (.null, rest)
  | 't' :: rest => (scanExactly ['r', 'u', 'e'] rest).map fun rest => (.bool true, rest)
  | 'f' :: rest => (scanExactly ['a', 'l', 's', 'e'] rest).map fun rest => (.bool false, rest)
  | '"' :: rest => (scanString [] rest).map fun (s, rest) => (.string s, rest)
  | c :: _ =>
      if c = '-' ∨ c.isDigit then (scanNumber cs).map fun (n, rest) => (.number n, rest)
      else .error .malformed

/-- The key of a member with the colon after it, from the opening quote on. -/
def scanKey (cs : List Char) : Except ReadError (String × List Char) :=
  match cs with
  | [] => .error .ended
  | '"' :: rest => do
      let (key, rest) ← scanString [] rest
      match skipBlanks rest with
      | [] => .error .ended
      | ':' :: rest => .ok (key, rest)
      | _ :: _ => .error .malformed
  | _ :: _ => .error .malformed

mutual

/-- A value after any blanks. `fuel` bounds the steps and `depth` the containers still allowed. -/
def scanValue : (fuel depth : Nat) → List Char → Except ReadError (Value × List Char)
  | 0, _, _ => .error .malformed
  | fuel + 1, depth, cs =>
      match skipBlanks cs with
      | '[' :: rest =>
          if depth = 0 then .error .malformed
          else
            match skipBlanks rest with
            | ']' :: rest => .ok (.array [], rest)
            | [] => .error .ended
            | rest => scanItems fuel (depth - 1) [] rest
      | '{' :: rest =>
          if depth = 0 then .error .malformed
          else
            match skipBlanks rest with
            | '}' :: rest => .ok (.object [], rest)
            | rest => scanMembers fuel (depth - 1) [] rest
      | cs => scanScalar cs

/-- The items that are left of an array, put behind those read so far. -/
def scanItems : (fuel depth : Nat) → List Value → List Char → Except ReadError (Value × List Char)
  | 0, _, _, _ => .error .malformed
  | fuel + 1, depth, acc, cs =>
      match scanValue fuel depth cs with
      | .error e => .error e
      | .ok (v, rest) =>
          match skipBlanks rest with
          | [] => .error .ended
          | ']' :: rest => .ok (.array (v :: acc).reverse, rest)
          | ',' :: rest => scanItems fuel depth (v :: acc) rest
          | _ :: _ => .error .malformed

/-- The members that are left of an object, put to those read so far. -/
def scanMembers : (fuel depth : Nat) → Members → List Char → Except ReadError (Value × List Char)
  | 0, _, _, _ => .error .malformed
  | fuel + 1, depth, acc, cs =>
      match scanKey (skipBlanks cs) with
      | .error e => .error e
      | .ok (key, rest) =>
          match scanValue fuel depth rest with
          | .error e => .error e
          | .ok (v, rest) =>
              match skipBlanks rest with
              | [] => .error .ended
              | '}' :: rest => .ok (.object (Entries.insert key v acc), rest)
              | ',' :: rest => scanMembers fuel depth (Entries.insert key v acc) rest
              | _ :: _ => .error .malformed

end

/-- Enough steps for every text: two for each character. -/
def enoughFuel (cs : List Char) : Nat :=
  2 * cs.length + 2

/-- Only blanks may follow what was read. -/
def finish {α : Type} : Except ReadError (α × List Char) → Except ReadError α
  | .error e => .error e
  | .ok (a, rest) => if skipBlanks rest = [] then .ok a else .error .malformed

def read (cs : List Char) : Except ReadError Value :=
  finish (scanValue (enoughFuel cs) greatestDepth cs)

def readString (text : String) : Except ReadError Value :=
  read text.toList

/-- Bytes that are not UTF-8 are not JSON. -/
def readBytes (bytes : Bytes) : Except ReadError Value :=
  match Text.ofUtf8? bytes with
  | some text => readString text
  | none => .error .malformed

@[simp] theorem readBytes_utf8 (text : String) : readBytes (Text.utf8 text) = readString text := by
  simp [readBytes]

end Json
end RpcHost
