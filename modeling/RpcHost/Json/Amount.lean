import RpcHost.Json.Scan

/-!
# From a numeral to a number

A numeral without fraction and exponent that fits a 64-bit word is that whole number. Any other is a
double: the digits are gathered into a 64-bit significand as long as they fit, later digits are
dropped, and the significand is scaled once by a power of ten (further steps of `10 ^ 308` for very
small values). A value beyond the doubles is refused.
-/

namespace RpcHost
namespace Json

/-- Digits gathered into a significand, how many were taken, and those that did not fit. -/
structure Gathered where
  significand : Nat
  taken : Nat
  dropped : List Char
  deriving DecidableEq, Repr

/-- Takes digits while the significand fits an unsigned 64-bit word. -/
def gather (significand taken : Nat) : List Char → Gathered
  | [] => ⟨significand, taken, []⟩
  | d :: ds =>
      let next := significand * 10 + (d.toNat - 48)
      if next < 0x10000000000000000 then gather next (taken + 1) ds
      else ⟨significand, taken, d :: ds⟩

def powerOfTen (n : Nat) : Float :=
  Float.ofScientific 1 false n

/-- The largest power of ten that is a finite double. -/
def greatestPower : Nat := 308

/-- `x * 10 ^ exponent`, or nothing when that is beyond the doubles. -/
def scale (x : Float) (exponent : Int) : Option Float :=
  if exponent.natAbs ≤ greatestPower then
    if 0 ≤ exponent then
      let y := x * powerOfTen exponent.natAbs
      if y.isInf then none else some y
    else some (x / powerOfTen exponent.natAbs)
  else if x == 0 then some x
  else if 0 ≤ exponent then none
  else scale (x / powerOfTen greatestPower) (exponent + greatestPower)
termination_by exponent.natAbs
decreasing_by simp only [greatestPower] at *; omega

/-- Exponents saturate at the bounds of 32-bit words. -/
def clampExponent (e : Int) : Int :=
  max (-0x80000000) (min e 0x7fffffff)

def signed (negative : Bool) (x : Float) : Float :=
  if negative then -x else x

def wordToFloat (n : Nat) : Float :=
  (UInt64.ofNat n).toFloat

def Numeral.toDouble (n : Numeral) : Except ReadError Number :=
  let whole := gather 0 0 n.whole
  let all := gather whole.significand 0 (n.fraction.getD [])
  let place : Int := (whole.dropped.length : Int) - all.taken
  let exact (e : Int) : Except ReadError Number :=
    match scale (wordToFloat all.significand) e with
    | some x => .ok (.double (signed n.negative x))
    | none => .error .malformed
  match n.exponent with
  | none => exact place
  | some (negative, digits) =>
      let e := Nat.ofDigitChars 10 digits 0
      if 0x80000000 ≤ e then
        if all.significand ≠ 0 ∧ ¬ negative then .error .malformed
        else .ok (.double (signed n.negative 0))
      else exact (clampExponent (if negative then place - e else place + e))

/-- A negative zero is a double, as is a whole number outside the 64-bit words. -/
def Numeral.toNumber (n : Numeral) : Except ReadError Number :=
  if n.fraction.isNone ∧ n.exponent.isNone then
    let value := Nat.ofDigitChars 10 n.whole 0
    if 0x10000000000000000 ≤ value then n.toDouble
    else if ¬ n.negative then .ok (.integer value)
    else if value = 0 ∨ 0x8000000000000000 < value then .ok (.double (-(wordToFloat value)))
    else .ok (.integer (-value))
  else n.toDouble

/-- A number from its first character on. -/
def scanNumber (cs : List Char) : Except ReadError (Number × List Char) := do
  let (numeral, rest) ← scanNumeral .ended cs
  return (← numeral.toNumber, rest)

end Json
end RpcHost
