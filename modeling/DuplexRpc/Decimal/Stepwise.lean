import DuplexRpc.Decimal.Binary64

/-!
Decimals as they are found by machine arithmetic alone. The significand is rounded first, then
multiplied or divided by a rounded power of ten, and the outcome is rounded again; so a decimal of
many digits may give a neighbour of the number that is nearest to it, and one close to the bound
may be out of range.
-/

namespace DuplexRpc.Decimal.Binary64

/-- Rounds `num / den * 2 ^ exponent`. -/
def ofDyadic? (negative : Bool) (num den : Nat) (exponent : Int) : Option Binary64 :=
  if exponent ≥ 0 then ofQuotient? negative (num <<< exponent.toNat) den
  else ofQuotient? negative num (den <<< (-exponent).toNat)

/-- The product of two finite numbers, unless it is beyond the largest one. -/
def times? (x y : Binary64) : Option Binary64 :=
  ofDyadic? (x.isNegative != y.isNegative) (x.significand * y.significand) 1
    (x.exponent + y.exponent)

/-- The quotient of two finite numbers of which the second is not zero. -/
def over? (x y : Binary64) : Option Binary64 :=
  ofDyadic? (x.isNegative != y.isNegative) x.significand y.significand (x.exponent - y.exponent)

/-- The greatest power of ten that is a finite number. -/
def maxPower : Nat := 308

def powerOfTen? (n : Nat) : Option Binary64 := ofQuotient? false (tenTo n) 1

/-- Divides by `10 ^ power`, by no more than the greatest power of ten at a time. -/
def shrink? (x : Binary64) (power : Nat) : Option Binary64 :=
  if power ≤ maxPower then do x.over? (← powerOfTen? power)
  else if x.significand == 0 then some x
  else do
    let smaller ← x.over? (← powerOfTen? maxPower)
    smaller.shrink? (power - maxPower)
termination_by power
decreasing_by simp only [maxPower] at *; omega

/-- Multiplies by `10 ^ power`; only zero may be multiplied by more than the greatest power of
ten. -/
def grow? (x : Binary64) (power : Nat) : Option Binary64 :=
  if power ≤ maxPower then do x.times? (← powerOfTen? power)
  else if x.significand == 0 then some x
  else none

/-- `significand * 10 ^ power` in steps that are rounded one by one. -/
def ofSteps? (negative : Bool) (significand : UInt64) (power : Int) : Option Binary64 := do
  let x ← ofQuotient? negative significand.toNat 1
  if power ≥ 0 then x.grow? power.toNat else x.shrink? (-power).toNat

end DuplexRpc.Decimal.Binary64
