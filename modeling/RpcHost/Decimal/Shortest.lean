/-!
# The fewest decimal digits that read back

A finite double is `mantissa * 2 ^ exponent`. The reals that round to it form an interval around
it, whose ends belong to it exactly when the mantissa is even. `Dyadic.shortest` takes the coarsest
decimal grid that has a point in that interval, and on this grid the point nearest to the value.
-/

namespace RpcHost
namespace Decimal

/-- The value `mantissa * 2 ^ exponent`. -/
structure Dyadic where
  mantissa : Nat
  exponent : Int
  deriving DecidableEq, Repr

/-- The value `digits * 10 ^ exponent`. -/
structure Scaled where
  digits : Nat
  exponent : Int
  deriving DecidableEq, Repr

/-- The magnitude of a finite double from its bit pattern, its sign left out. -/
def Dyadic.ofBits (bits : UInt64) : Dyadic :=
  let word : Nat := bits.toNat
  let fraction : Nat := word % 0x10000000000000
  let biased : Nat := word / 0x10000000000000 % 0x800
  if biased = 0 then ⟨fraction, -1074⟩ else ⟨fraction + 0x10000000000000, (biased : Int) - 1075⟩

/-- The values that round to one double, in quarters of its last place: the value itself and the
two ends of the interval. -/
structure Interval where
  low : Nat
  value : Nat
  high : Nat
  closed : Bool
  deriving DecidableEq, Repr

/-- Below a power of two the next double is only half as far away. -/
def Dyadic.interval (d : Dyadic) : Interval where
  low :=
    if d.mantissa = 0x10000000000000 ∧ -1074 < d.exponent then 4 * d.mantissa - 1
    else 4 * d.mantissa - 2
  value := 4 * d.mantissa
  high := 4 * d.mantissa + 2
  closed := d.mantissa % 2 = 0

def Interval.holds (i : Interval) (scaled unit : Nat) : Bool :=
  if i.closed then i.low * unit ≤ scaled ∧ scaled ≤ i.high * unit
  else i.low * unit < scaled ∧ scaled < i.high * unit

/-- The place of the leading decimal digit of `num / den`, for positive arguments. -/
def leadingPlace (num den : Nat) : Int :=
  if den ≤ num then ((Nat.toDigits 10 (num / den)).length : Int) - 1
  else -((Nat.toDigits 10 ((den - 1) / num)).length : Int)

/-- The point of the grid of multiples of `step / unit` that lies in the interval and is nearest to
its value, as a multiple of the step; of two equally near points the even one. -/
def Interval.nearest? (i : Interval) (unit step : Nat) : Option Nat :=
  let below := i.value * unit / step
  let above := below + 1
  match i.holds (below * step) unit, i.holds (above * step) unit with
  | false, false => none
  | true, false => some below
  | false, true => some above
  | true, true =>
      let gap := 2 * (i.value * unit)
      let middle := (below + above) * step
      if gap < middle then some below
      else if middle < gap then some above
      else if below % 2 = 0 then some below else some above

def stripZeros : Nat → Scaled → Scaled
  | 0, d => d
  | fuel + 1, d =>
      if d.digits ≠ 0 ∧ d.digits % 10 = 0 then stripZeros fuel ⟨d.digits / 10, d.exponent + 1⟩
      else d

/-- Tries the grids with `count`, `count + 1`, … significant digits. -/
def Dyadic.searchFrom (d : Dyadic) (place : Int) : (tries count : Nat) → Scaled
  | 0, _ => ⟨0, 0⟩
  | tries + 1, count =>
      let grid := place - count + 1
      let unit := Nat.pow 2 (d.exponent - 2).toNat * Nat.pow 10 (-grid).toNat
      let step := Nat.pow 2 (2 - d.exponent).toNat * Nat.pow 10 grid.toNat
      match d.interval.nearest? unit step with
      | some digits => stripZeros 20 ⟨digits, grid⟩
      | none => searchFrom d place tries (count + 1)

/-- Seventeen significant digits always suffice for a double. -/
def Dyadic.shortest (d : Dyadic) : Scaled :=
  if d.mantissa = 0 then ⟨0, 0⟩
  else
    let place :=
      leadingPlace (d.mantissa * Nat.pow 2 d.exponent.toNat) (Nat.pow 2 (-d.exponent).toNat)
    d.searchFrom place 17 1

end Decimal
end RpcHost
