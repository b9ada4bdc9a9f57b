import RpcHost.Json.Record

/-!
# Parts of a text

What stands between the brackets of a text: the items of an array, and the members of an object in
their order. Each part is given by the text from its value on. A key that stands twice is there
twice here, which the value that is read no longer tells.
-/

namespace RpcHost
namespace Json

/-- What follows the comma behind the first value in a text, if there is one. -/
def afterComma? (cs : List Char) : Option (List Char) :=
  match skip cs with
  | .error _ => none
  | .ok after =>
      match skipBlanks after with
      | ',' :: more => some more
      | _ => none

def itemTextsFrom : (fuel : Nat) → List Char → List (List Char)
  | 0, _ => []
  | fuel + 1, cs =>
      cs :: match afterComma? cs with
        | some more => itemTextsFrom fuel more
        | none => []

def memberTextsFrom : (fuel : Nat) → List Char → List (String × List Char)
  | 0, _ => []
  | fuel + 1, cs =>
      match scanKey (skipBlanks cs) with
      | .error _ => []
      | .ok (key, text) =>
          (key, text) :: match afterComma? text with
            | some more => memberTextsFrom fuel more
            | none => []

/-- The items of the array that a text opens with. -/
def itemTexts (cs : List Char) : List (List Char) :=
  match skipBlanks cs with
  | '[' :: body =>
      match skipBlanks body with
      | ']' :: _ => []
      | first => itemTextsFrom first.length first
  | _ => []

/-- The members of the object that a text opens with, in the order in which they stand there. -/
def memberTexts (cs : List Char) : List (String × List Char) :=
  match skipBlanks cs with
  | '{' :: body => memberTextsFrom body.length body
  | _ => []

/-- No key of the layout stands twice in the object that a text opens with. -/
def NoRepeats (layout : Layout) (cs : List Char) : Prop :=
  ∀ f ∈ layout, ((memberTexts cs).map (·.1)).count f.name ≤ 1

instance (layout : Layout) (cs : List Char) : Decidable (NoRepeats layout cs) :=
  inferInstanceAs (Decidable (∀ f ∈ layout, _))

end Json
end RpcHost
