import DuplexRpc.Decimal.Binary64

/-!
How long to wait before the next connection attempt. The delay starts at a base and grows by a
factor for every failure since the channel was last open, up to a ceiling; jitter adds up to a
quarter of it. Durations are in nanoseconds, but the curve is computed in whole milliseconds.

The curve is written over any `Scale` of numbers: binary64 when it runs, exact fractions when it
is reasoned about.
-/

namespace DuplexRpc.Backoff

abbrev Nanoseconds := Nat

def millisecond : Nanoseconds := 1000000

class Scale (α : Type) where
  ofNat : Nat → α
  mul : α → α → α
  isFinite : α → Bool
  le : α → α → Bool
  /-- Nearest natural of a number that is not negative, a half going up, and no more than the
  largest of 64 bits. -/
  round : α → Nat

instance : Scale Float where
  ofNat n :=
    match Decimal.Binary64.ofQuotient? false n 1 with
    | some x => x.toFloat
    | none => Float.ofBits 0x7FF0000000000000
  mul := (· * ·)
  isFinite := Float.isFinite
  le a b := a <= b
  round x := (Decimal.Binary64.ofFloat x).nearest

section

variable {α : Type} [Scale α]

/-- The attempt counter is cut to 31 bits before it becomes an exponent. -/
def maxExponent : Nat := 0x7FFFFFFF

/-- Multiplies `acc` by the `n`-th power of `a`, by repeated squaring, lowest bit first. -/
def powerOnto (acc a : α) (n : Nat) : α :=
  let acc := if n % 2 = 1 then Scale.mul acc a else acc
  if n / 2 = 0 then acc else powerOnto acc (Scale.mul a a) (n / 2)
termination_by n

def power (a : α) (n : Nat) : α := powerOnto (Scale.ofNat 1) a n

/-- A growth factor that is not a finite number of at least one counts as one. -/
def growthFactor (decay : α) : α :=
  if Scale.isFinite decay && Scale.le (Scale.ofNat 1) decay then decay else Scale.ofNat 1

end

structure Exponential (α : Type) where
  base : Nanoseconds
  decay : α
  ceiling : Nanoseconds
  maxAttempts : Option Nat := none
  jitter : Bool := false

def defaultBase : Nanoseconds := 1000 * millisecond

def defaultDecay : Float := 1.5

def defaultCeiling : Nanoseconds := 10000 * millisecond

def Exponential.standard : Exponential Float where
  base := defaultBase
  decay := defaultDecay
  ceiling := defaultCeiling

section

variable {α : Type} [Scale α]

/-- The delay before jitter. The ceiling is given back as it is, not cut to milliseconds. -/
def Exponential.baseDelay (b : Exponential α) (attempt : Nat) : Nanoseconds :=
  let factor := power (growthFactor b.decay) (min attempt maxExponent)
  let millis := Scale.mul (Scale.ofNat (b.base / millisecond)) factor
  let cap : α := Scale.ofNat (b.ceiling / millisecond)
  if !Scale.isFinite millis || Scale.le cap millis then b.ceiling
  else Scale.round millis * millisecond

def Exponential.givesUp (b : Exponential α) (attempt : Nat) : Bool :=
  match b.maxAttempts with
  | some limit => limit ≤ attempt
  | none => false

def wholeMillis (delay : Nanoseconds) : UInt64 := UInt64.ofNat (delay / millisecond)

def jitterRoom (delay : Nanoseconds) : UInt64 := wholeMillis delay / 4

def jittered (delay : Nanoseconds) (drawn : UInt64) : Nanoseconds :=
  (wholeMillis delay + drawn).toNat * millisecond

/-- Whole milliseconds, from a delay cut to them up to a quarter above it. -/
def isJitterOf (delay actual : Nanoseconds) : Bool :=
  let millis := delay / millisecond
  actual % millisecond == 0 && millis * millisecond ≤ actual &&
    actual ≤ (millis + millis / 4) * millisecond

/-- The delay before the next attempt, or nothing to give up. `drawn` is the random number of
milliseconds, of which no more than the room for jitter counts. -/
def Exponential.nextDelay (b : Exponential α) (attempt : Nat) (drawn : UInt64) :
    Option Nanoseconds :=
  if b.givesUp attempt then none
  else
    let delay := b.baseDelay attempt
    if b.jitter then some (jittered delay (min drawn (jitterRoom delay))) else some delay

theorem Exponential.nextDelay_eq_none (b : Exponential α) (attempt : Nat) (drawn : UInt64) :
    b.nextDelay attempt drawn = none ↔ b.givesUp attempt := by
  unfold nextDelay
  cases b.givesUp attempt <;> cases b.jitter <;> simp

end

end DuplexRpc.Backoff
