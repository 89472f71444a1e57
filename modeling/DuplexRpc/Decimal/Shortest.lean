import DuplexRpc.Decimal.Binary64

/-!
The shortest decimal of a binary64 number: the fewest digits that read back as the number, and
of those the nearest to it. Each count of digits is tried in turn against the interval of reals
that round to the number, in exact arithmetic.
-/

namespace DuplexRpc.Decimal

/-- The decimal `0.d₁d₂… * 10 ^ (exponent + 1)`, that is, `d₁.d₂… * 10 ^ exponent`. -/
structure Scientific where
  digits : List Char
  exponent : Int
  deriving DecidableEq, Repr

namespace Binary64

/-- Position of the leading decimal digit of `significand * 2 ^ exponent`, for a positive
number. -/
def decimalExponent (x : Binary64) : Int :=
  let scaled :=
    if x.exponent ≥ 0 then (x.significand <<< x.exponent.toNat) * tenTo 330
    else (x.significand * tenTo 330) >>> (-x.exponent).toNat
  ((Nat.toDigits 10 scaled).length : Int) - 331

/-- The point of the grid `10 ^ place` that lies in the rounding interval of `x` and is nearest
to `x`, counted in grid steps. -/
def gridPoint? (x : Binary64) (place : Int) : Option Nat :=
  let middle := 4 * x.significand
  let lowGap := if x.fractionField == 0 && x.exponentField > 1 then 1 else 2
  -- quarter units of the last binary place, and grid steps, over a common denominator
  let unit : Int := x.exponent - 2
  let quarter := (1 <<< unit.toNat) * tenTo (-place).toNat
  let step := tenTo place.toNat * (1 <<< (-unit).toNat)
  let inside (point : Nat) : Bool :=
    let value := point * step
    let low := (middle - lowGap) * quarter
    let high := (middle + 2) * quarter
    if x.significand % 2 == 0 then low ≤ value && value ≤ high
    else low < value && value < high
  let below := middle * quarter / step
  let above := below + 1
  let toBelow := middle * quarter - below * step
  let toAbove := above * step - middle * quarter
  let belowFirst := toBelow < toAbove || (toBelow == toAbove && below % 2 == 0)
  let (first, second) := if belowFirst then (below, above) else (above, below)
  if first != 0 && inside first then some first
  else if second != 0 && inside second then some second
  else none

private def shortestFrom (x : Binary64) (leading : Int) : Nat → Nat → Scientific
  | 0, _ => ⟨['0'], 0⟩
  | tries + 1, count =>
    let place := leading - count
    match x.gridPoint? place with
    | some point =>
      let digits := Nat.toDigits 10 point
      let kept := (digits.reverse.dropWhile (· == '0')).reverse
      ⟨kept, place + digits.length - 1⟩
    | none => shortestFrom x leading tries (count + 1)

/-- Seventeen digits always suffice. -/
def shortest (x : Binary64) : Scientific :=
  if x.significand == 0 then ⟨['0'], 0⟩
  else shortestFrom x x.decimalExponent 17 0

end Binary64

/-- Positional digits of a decimal, without a sign. `point` says whether a whole number keeps a
fraction of one zero. -/
def Scientific.positional (d : Scientific) (point : Bool) : List Char :=
  if d.exponent < 0 then
    '0' :: '.' :: (List.replicate (-d.exponent - 1).toNat '0' ++ d.digits)
  else
    let whole := d.exponent.toNat + 1
    if d.digits.length ≤ whole then
      d.digits ++ List.replicate (whole - d.digits.length) '0' ++ (if point then ['.', '0'] else [])
    else d.digits.take whole ++ '.' :: d.digits.drop whole

def Scientific.exponential (d : Scientific) : List Char :=
  let mantissa := match d.digits with
    | [] => []
    | [c] => [c]
    | c :: rest => c :: '.' :: rest
  let sign := if d.exponent < 0 then '-' else '+'
  mantissa ++ 'e' :: sign :: Nat.toDigits 10 d.exponent.natAbs

/-- JSON spells exponents -5 to 15 out and keeps a fraction on whole numbers. -/
def Binary64.jsonText (x : Binary64) : List Char :=
  let d := x.shortest
  let magnitude :=
    if -5 ≤ d.exponent && d.exponent < 16 then d.positional true else d.exponential
  if x.isNegative then '-' :: magnitude else magnitude

/-- The plain form is always positional and gives whole numbers no fraction. -/
def Binary64.plainText (x : Binary64) : List Char :=
  if x.isFinite then
    let magnitude := x.shortest.positional false
    if x.isNegative then '-' :: magnitude else magnitude
  else if x.fractionField != 0 then ['N', 'a', 'N']
  else if x.isNegative then ['-', 'i', 'n', 'f'] else ['i', 'n', 'f']

end DuplexRpc.Decimal
