/-!
Finite binary64 numbers, held as their bit pattern so that two of them can be told apart (and
zero keeps its sign). A decimal is read by exact arithmetic on naturals and rounded once, to
nearest with ties to even.
-/

namespace DuplexRpc.Decimal

def tenTo (n : Nat) : Nat := Nat.pow 10 n

/-- Nearest natural to `num / den`, a half going to the even neighbour. -/
def roundHalfEven (num den : Nat) : Nat :=
  let whole := num / den
  let twice := 2 * (num % den)
  if twice < den || (twice == den && whole % 2 == 0) then whole else whole + 1

/-- Position of the leading binary digit. -/
def leadingPlace (n : Nat) : Nat := (Nat.toDigits 2 n).length - 1

structure Binary64 where
  bits : UInt64
  deriving DecidableEq, Repr, Inhabited

namespace Binary64

/-- The leading bit of a significand, in the units of its last one. It is not stored. -/
def implicitBit : Nat := 1 <<< 52

def toFloat (x : Binary64) : Float := Float.ofBits x.bits

def ofFloat (x : Float) : Binary64 := ⟨x.toBits⟩

def isNegative (x : Binary64) : Bool := x.bits.toNat >>> 63 == 1

/-- The biased exponent; 2047 marks infinities and NaNs. -/
def exponentField (x : Binary64) : Nat := (x.bits.toNat >>> 52) % 2048

def fractionField (x : Binary64) : Nat := x.bits.toNat % implicitBit

def isFinite (x : Binary64) : Bool := x.exponentField != 2047

/-- A finite number is `significand * 2 ^ exponent`, up to sign. -/
def significand (x : Binary64) : Nat :=
  if x.exponentField == 0 then x.fractionField else implicitBit + x.fractionField

def exponent (x : Binary64) : Int :=
  (if x.exponentField == 0 then 1 else (x.exponentField : Int)) - 1075

/-- Nearest natural, a half going up, and no more than the largest of 64 bits. Nothing is left of a
negative number. -/
def nearest (x : Binary64) : Nat :=
  if x.isNegative then 0
  else
    let whole :=
      if x.exponent ≥ 0 then x.significand <<< x.exponent.toNat
      else
        let unit := 1 <<< (-x.exponent).toNat
        (2 * x.significand + unit) / (2 * unit)
    min whole (UInt64.size - 1)

private def assemble (negative : Bool) (magnitude : Nat) : Binary64 :=
  ⟨UInt64.ofNat ((if negative then 1 <<< 63 else 0) + magnitude)⟩

def zero (negative : Bool) : Binary64 := assemble negative 0

/-- Rounds `num / den`; `none` when the magnitude is beyond the largest finite number. -/
def ofQuotient? (negative : Bool) (num den : Nat) : Option Binary64 :=
  if num == 0 then some (zero negative)
  else
    -- a scale at which the quotient has 53 or 54 binary digits
    let estimate : Int := (leadingPlace num : Int) - (leadingPlace den : Int) - 53
    let quotient (scale : Int) : Nat :=
      if scale ≥ 0 then num / (den <<< scale.toNat) else (num <<< (-scale).toNat) / den
    let scale := if quotient estimate ≥ 2 * implicitBit then estimate + 1 else estimate
    let scale := max scale (-1074)
    let rounded :=
      if scale ≥ 0 then roundHalfEven num (den <<< scale.toNat)
      else roundHalfEven (num <<< (-scale).toNat) den
    -- adding the significand to the exponent field carries a rounding overflow into it
    let magnitude :=
      if rounded < implicitBit then rounded
      else (scale + 1074).toNat * implicitBit + rounded
    if magnitude < 2047 * implicitBit then some (assemble negative magnitude) else none

/-- Rounds `digits * 10 ^ exponent`. Exponents that decide the result on their own are not
expanded. -/
def ofDecimal? (negative : Bool) (digits : Nat) (exponent : Int) : Option Binary64 :=
  if digits == 0 then some (zero negative)
  else
    let size : Int := (Nat.toDigits 10 digits).length
    if size + exponent > 310 then none
    else if size + exponent < -330 then some (zero negative)
    else if exponent ≥ 0 then ofQuotient? negative (digits * tenTo exponent.toNat) 1
    else ofQuotient? negative digits (tenTo (-exponent).toNat)

end Binary64
end DuplexRpc.Decimal
