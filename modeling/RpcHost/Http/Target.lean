/-!
# Request targets

A target is a path with an optional query, an absolute form with scheme and authority in front of
the path, an authority alone, or an asterisk. Only the path matters; it is taken as it stands.
-/

namespace RpcHost
namespace Http

def greatestTargetSize : Nat := 65534

/-! ## Characters -/

/-- What may stand in a path without being escaped, quotes and braces included. -/
def isPathChar (c : Char) : Bool :=
  let n := c.toNat
  n = 0x21 || n = 0x22 || (0x24 ≤ n && n ≤ 0x3B) || n = 0x3D || (0x40 ≤ n && n ≤ 0x5F)
    || (0x61 ≤ n && n ≤ 0x7E) || 0x7F < n

def isQueryChar (c : Char) : Bool :=
  let n := c.toNat
  n = 0x21 || (0x24 ≤ n && n ≤ 0x3B) || n = 0x3D || (0x3F ≤ n && n ≤ 0x7E) || 0x7F < n

def isAuthorityChar (c : Char) : Bool :=
  c.isAlphanum || c ∈ ['!', '$', '&', '\'', '(', ')', '*', '+', ',', '-', '.', ':', ';', '=', '@',
    '[', ']', '_', '~', '%']

def isSchemeChar (c : Char) : Bool :=
  c.isAlphanum || c = '+' || c = '-' || c = '.' || c = '~'

/-! ## Parts -/

/-- The path in front of query and fragment. The query is checked and dropped, the fragment only
dropped. An empty path stands for the root. -/
def pathOf (cs : List Char) : Option (List Char) :=
  let path := cs.takeWhile fun c => c ≠ '?' && c ≠ '#'
  let query := match cs.drop path.length with
    | '?' :: rest => rest.takeWhile (· ≠ '#')
    | _ => []
  if path.all isPathChar && query.all isQueryChar then
    some (if path = [] then ['/'] else path)
  else none

/-- The state of a walk through an authority. -/
structure AuthorityScan where
  colons : Nat := 0
  opened : Bool := false
  closed : Bool := false
  escaped : Bool := false
  endsInAt : Bool := false

/-- Colons and escapes before an at sign or inside brackets do not count. -/
def AuthorityScan.next (s : AuthorityScan) (c : Char) : Option AuthorityScan :=
  let s := { s with endsInAt := c = '@' }
  match c with
  | ':' => if 8 ≤ s.colons then none else some { s with colons := s.colons + 1 }
  | '[' => if s.escaped || s.opened then none else some { s with opened := true }
  | ']' =>
      if !s.opened || s.closed then none
      else some { s with closed := true, colons := 0, escaped := false }
  | '@' => some { s with colons := 0, escaped := false }
  | '%' => some { s with escaped := true }
  | c => if isAuthorityChar c then some s else none

def isAuthority (cs : List Char) : Bool :=
  match cs.foldlM AuthorityScan.next ({} : AuthorityScan) with
  | some s => s.opened = s.closed && s.colons ≤ 1 && !s.endsInAt && !s.escaped
  | none => false

/-- What follows a scheme with its colon and slashes. A scheme has at most 64 characters. -/
def afterScheme? (cs : List Char) : Option (List Char) :=
  let scheme := cs.takeWhile isSchemeChar
  match cs.drop scheme.length with
  | ':' :: '/' :: '/' :: rest => if 64 < scheme.length then none else some rest
  | _ => none

/-! ## Targets -/

/-- The path of a target: empty for an authority alone, and the root for an absolute target that has
none. -/
def readTarget (cs : List Char) : Option String :=
  match cs with
  | [] => none
  | ['*'] => some "*"
  | '/' :: _ => (pathOf cs).map String.ofList
  | cs =>
      match afterScheme? cs with
      | some rest =>
          let authority := rest.takeWhile fun c => c ≠ '/' && c ≠ '?' && c ≠ '#'
          if authority ≠ [] && isAuthority authority then
            (pathOf (rest.drop authority.length)).map String.ofList
          else none
      | none => if isAuthority cs then some "" else none

end Http
end RpcHost
