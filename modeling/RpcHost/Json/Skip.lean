import RpcHost.Json.Reader

/-!
# Passing over JSON values

A value nobody asks for is passed over and checked for its grammar alone: numbers may be out of
range, surrogates unpaired, containers nested without limit and keys repeated.
-/

namespace RpcHost
namespace Json

/-- A number that stops too early counts as malformed here. -/
def skipNumber (cs : List Char) : Except ReadError (List Char) :=
  (scanNumeral .malformed cs).map (·.2)

def skipScalar (cs : List Char) : Except ReadError (List Char) :=
  match cs with
  | [] => .error .ended
  | 'n' :: rest => scanExactly ['u', 'l', 'l'] rest
  | 't' :: rest => scanExactly ['r', 'u', 'e'] rest
  | 'f' :: rest => scanExactly ['a', 'l', 's', 'e'] rest
  | '"' :: rest => skipString rest
  | c :: _ => if c = '-' ∨ c.isDigit then skipNumber cs else .error .malformed

def skipKey (cs : List Char) : Except ReadError (List Char) :=
  match cs with
  | [] => .error .ended
  | '"' :: rest => do
      let rest ← skipString rest
      match skipBlanks rest with
      | [] => .error .ended
      | ':' :: rest => .ok rest
      | _ :: _ => .error .malformed
  | _ :: _ => .error .malformed

mutual

def skipValue : (fuel : Nat) → List Char → Except ReadError (List Char)
  | 0, _ => .error .malformed
  | fuel + 1, cs =>
      match skipBlanks cs with
      | '[' :: rest =>
          match skipBlanks rest with
          | ']' :: rest => .ok rest
          | [] => .error .ended
          | rest => skipItems fuel rest
      | '{' :: rest =>
          match skipBlanks rest with
          | '}' :: rest => .ok rest
          | rest => skipMembers fuel rest
      | cs => skipScalar cs

def skipItems : (fuel : Nat) → List Char → Except ReadError (List Char)
  | 0, _ => .error .malformed
  | fuel + 1, cs =>
      match skipValue fuel cs with
      | .error e => .error e
      | .ok rest =>
          match skipBlanks rest with
          | [] => .error .ended
          | ']' :: rest => .ok rest
          | ',' :: rest => skipItems fuel rest
          | _ :: _ => .error .malformed

def skipMembers : (fuel : Nat) → List Char → Except ReadError (List Char)
  | 0, _ => .error .malformed
  | fuel + 1, cs =>
      match skipKey (skipBlanks cs) with
      | .error e => .error e
      | .ok rest =>
          match skipValue fuel rest with
          | .error e => .error e
          | .ok rest =>
              match skipBlanks rest with
              | [] => .error .ended
              | '}' :: rest => .ok rest
              | ',' :: rest => skipMembers fuel rest
              | _ :: _ => .error .malformed

end

def skip (cs : List Char) : Except ReadError (List Char) :=
  skipValue (enoughFuel cs) cs

end Json
end RpcHost
