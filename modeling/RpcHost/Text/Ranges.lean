/-!
# Ranges of characters

A property of characters as a table of ranges of code points, both ends included, in ascending
order. The tables of this library state properties of Unicode 17.
-/

namespace RpcHost
namespace Text

abbrev Ranges := List (Nat × Nat)

def Ranges.holds (ranges : Ranges) (c : Char) : Bool :=
  ranges.any fun r => r.1 ≤ c.toNat && c.toNat ≤ r.2

end Text
end RpcHost
