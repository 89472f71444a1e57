import Mathlib.Tactic.Ring
import DuplexRpc.Decimal.Binary64

/-!
# Naturals among binary64 numbers

A natural becomes the nearest binary64 number, which may lie above it.  No other number lies between
the two, so a number below that nearest one is not rounded past the natural.
-/

namespace DuplexRpc.Decimal.Binary64

/-! ## Values -/

/-- The absolute value of a finite number is no greater than a natural. -/
def AtMost (x : Binary64) (n : Nat) : Prop :=
  x.significand * 2 ^ x.exponent.toNat ≤ n * 2 ^ (-x.exponent).toNat

theorem nearest_le {x : Binary64} {n : Nat} (bounded : x.isNegative = false → x.AtMost n) :
    x.nearest ≤ n := by
  unfold nearest
  split
  · exact Nat.zero_le n
  · next positive =>
      have bounded := bounded (by simpa using positive)
      refine (Nat.min_le_left _ _).trans ?_
      split
      · next whole =>
          have down : (-x.exponent).toNat = 0 := by omega
          simpa [AtMost, down, Nat.shiftLeft_eq] using bounded
      · next fraction =>
          have up : x.exponent.toNat = 0 := by omega
          have pos : 0 < 2 ^ (-x.exponent).toNat := Nat.two_pow_pos _
          simp only [AtMost, up, pow_zero, mul_one] at bounded
          simp only [Nat.one_shiftLeft]
          generalize 2 ^ (-x.exponent).toNat = unit at bounded pos
          refine Nat.lt_succ_iff.mp ((Nat.div_lt_iff_lt_mul (by omega)).mpr ?_)
          calc 2 * x.significand + unit < 2 * (n * unit) + 2 * unit := by omega
            _ = n.succ * (2 * unit) := by rw [Nat.succ_eq_add_one]; ring

theorem nearest_le_max (x : Binary64) : x.nearest ≤ UInt64.size - 1 := by
  unfold nearest
  split
  · exact Nat.zero_le _
  · exact Nat.min_le_right _ _

/-! ## The bit pattern -/

theorem implicitBit_eq : implicitBit = 2 ^ 52 := rfl

theorem leadingPlace_eq (n : Nat) : leadingPlace n = n.log2 := by
  induction n using Nat.strongRecOn with
  | ind n ih =>
      rw [leadingPlace, Nat.log2_def]
      split
      · next large =>
          have shorter := ih (n / 2) (by omega)
          have written : 0 < (Nat.toDigits 2 (n / 2)).length := Nat.length_toDigits_pos
          rw [leadingPlace] at shorter
          rw [Nat.toDigits_of_base_le (by decide) large, List.length_append, List.length_singleton]
          omega
      · next small => rw [Nat.toDigits_of_lt_base (by omega), List.length_singleton]

theorem significand_lt (x : Binary64) : x.significand < 2 ^ 53 := by
  have fraction : x.fractionField < 2 ^ 52 := Nat.mod_lt _ (by decide)
  unfold significand
  rw [implicitBit_eq]
  split <;> omega

theorem neg_1074_le_exponent (x : Binary64) : -1074 ≤ x.exponent := by
  unfold exponent
  split
  · omega
  · next normal =>
      have normal : x.exponentField ≠ 0 := by simpa using normal
      omega

/-- Only the numbers next to zero have no leading bit. -/
theorem leading_of_exponent {x : Binary64} (above : -1074 < x.exponent) :
    2 ^ 52 ≤ x.significand := by
  unfold exponent at above
  unfold significand
  split
  · next small => simp [small] at above
  · simp [implicitBit_eq]

/-- Read as a natural, the bit pattern of a positive number has its exponent above its
significand, and a carry from the one goes into the other. -/
theorem magnitude_eq {x : Binary64} (positive : x.isNegative = false) :
    (x.exponent + 1074) * 2 ^ 52 + x.significand = (x.bits.toNat : Int) := by
  have bounded : x.bits.toNat < 2 ^ 63 := by
    have sign : x.bits.toNat >>> 63 ≠ 1 := by simpa [isNegative] using positive
    have size := x.bits.toNat_lt
    rw [Nat.shiftRight_eq_div_pow] at sign
    omega
  have exponent : x.exponentField = x.bits.toNat / 2 ^ 52 := by
    rw [exponentField, Nat.shiftRight_eq_div_pow]
    omega
  have fraction : x.fractionField = x.bits.toNat % 2 ^ 52 := rfl
  unfold Binary64.exponent significand
  split <;> simp_all [implicitBit_eq] <;> omega

/-- Every bit pattern below that of infinity is a finite number without a sign. -/
theorem finite_of_bits_lt {x : Binary64} (below : x.bits.toNat < 2047 * 2 ^ 52) :
    x.isFinite = true ∧ x.isNegative = false := by
  simp only [isFinite, exponentField, isNegative, Nat.shiftRight_eq_div_pow, bne_iff_ne,
    beq_eq_false_iff_ne]
  omega

/-! ## The nearest number to a natural -/

/-- The significand of a natural with so many binary digits behind the leading one, before a
carry. -/
def rounded (n digits : Nat) : Nat :=
  if digits ≤ 52 then n * 2 ^ (52 - digits) else roundHalfEven n (2 ^ (digits - 52))

theorem roundHalfEven_le (num den : Nat) : roundHalfEven num den ≤ num / den + 1 := by
  simp only [roundHalfEven]
  split <;> omega

theorem le_roundHalfEven (num den : Nat) : num / den ≤ roundHalfEven num den := by
  simp only [roundHalfEven]
  split <;> omega

theorem roundHalfEven_one (num : Nat) : roundHalfEven num 1 = num := by
  simp [roundHalfEven, Nat.mod_one]

theorem le_rounded {n digits : Nat} (leading : 2 ^ digits ≤ n) : 2 ^ 52 ≤ rounded n digits := by
  unfold rounded
  split
  · next short =>
      calc 2 ^ 52 = 2 ^ digits * 2 ^ (52 - digits) := by rw [← pow_add]; congr 1; omega
        _ ≤ n * 2 ^ (52 - digits) := Nat.mul_le_mul_right _ leading
  · next long =>
      refine le_trans ?_ (le_roundHalfEven _ _)
      rw [Nat.le_div_iff_mul_le (Nat.two_pow_pos _), ← pow_add]
      exact le_trans (Nat.pow_le_pow_right (by decide) (by omega)) leading

theorem rounded_le {n digits : Nat} (last : n < 2 ^ (digits + 1)) : rounded n digits ≤ 2 ^ 53 := by
  unfold rounded
  split
  · next short =>
      calc n * 2 ^ (52 - digits) ≤ 2 ^ (digits + 1) * 2 ^ (52 - digits) :=
            Nat.mul_le_mul_right _ last.le
        _ = 2 ^ 53 := by rw [← pow_add]; congr 1; omega
  · next long =>
      refine (roundHalfEven_le _ _).trans (Nat.succ_le_of_lt ?_)
      rw [Nat.div_lt_iff_lt_mul (Nat.two_pow_pos _), ← pow_add]
      exact lt_of_lt_of_le last (Nat.pow_le_pow_right (by decide) (by omega))

/-- At its first scale a natural has at least 53 binary digits behind the leading one. -/
theorem estimate_reached {n digits : Nat} (leading : 2 ^ digits ≤ n) :
    (if (digits : Int) - 53 ≥ 0 then n / (1 <<< ((digits : Int) - 53).toNat)
      else (n <<< (-((digits : Int) - 53)).toNat) / 1) ≥ 2 * implicitBit := by
  split
  · next long =>
      have up : ((digits : Int) - 53).toNat = digits - 53 := by omega
      have whole : 53 + (digits - 53) = digits := by omega
      rw [up, Nat.one_shiftLeft, ge_iff_le, Nat.le_div_iff_mul_le (Nat.two_pow_pos _),
        implicitBit_eq, ← pow_succ', ← pow_add, whole]
      exact leading
  · next short =>
      have down : (-((digits : Int) - 53)).toNat = 53 - digits := by omega
      have whole : 53 = digits + (53 - digits) := by omega
      rw [down, Nat.shiftLeft_eq, Nat.div_one, implicitBit_eq, ← pow_succ']
      calc 2 ^ 53 = 2 ^ digits * 2 ^ (53 - digits) := by rw [← pow_add, ← whole]
        _ ≤ n * 2 ^ (53 - digits) := Nat.mul_le_mul_right _ leading

theorem rounded_eq (n digits : Nat) :
    (if (digits : Int) - 52 ≥ 0 then roundHalfEven n (1 <<< ((digits : Int) - 52).toNat)
      else roundHalfEven (n <<< (-((digits : Int) - 52)).toNat) 1) = rounded n digits := by
  unfold rounded
  split
  · next long =>
      have up : ((digits : Int) - 52).toNat = digits - 52 := by omega
      rw [up, Nat.one_shiftLeft]
      split
      · next same =>
          obtain rfl : digits = 52 := by omega
          simpa using roundHalfEven_one n
      · rfl
  · next short =>
      have down : (-((digits : Int) - 52)).toNat = 52 - digits := by omega
      rw [down, Nat.shiftLeft_eq, roundHalfEven_one, if_pos (by omega)]

/-- The bit pattern of the nearest number to a natural. -/
def naturalBits (n : Nat) : Nat :=
  if n = 0 then 0 else (n.log2 + 1022) * 2 ^ 52 + rounded n n.log2

theorem naturalBits_lt {n : Nat} (small : n < 2 ^ 64) : naturalBits n < 2047 * 2 ^ 52 := by
  unfold naturalBits
  split
  · decide
  · next positive =>
      have short : n.log2 < 64 := (Nat.log2_lt positive).mpr small
      have top := rounded_le (Nat.lt_log2_self (n := n))
      omega

theorem ofQuotient?_one {n : Nat} (small : n < 2 ^ 64) :
    ∃ c, ofQuotient? false n 1 = some c ∧ c.bits.toNat = naturalBits n := by
  by_cases empty : n = 0
  · exact ⟨zero false, by rw [empty]; rfl, by rw [empty]; rfl⟩
  have finite := naturalBits_lt small
  simp only [naturalBits, if_neg empty] at finite ⊢
  have leading : 2 ^ n.log2 ≤ n := Nat.log2_self_le empty
  have bottom : ¬ rounded n n.log2 < implicitBit := (le_rounded leading).not_gt
  have one : Nat.log2 1 = 0 := by decide
  have scale : max ((n.log2 : Int) - 53 + 1) (-1074) = n.log2 - 52 := by omega
  have carried : ((n.log2 : Int) - 52 + 1074).toNat = n.log2 + 1022 := by omega
  simp only [ofQuotient?, beq_iff_eq, empty, if_false, leadingPlace_eq, one, Nat.cast_zero,
    sub_zero]
  rw [if_pos (estimate_reached leading), scale, rounded_eq, if_neg bottom, carried,
    implicitBit_eq, if_pos finite]
  refine ⟨_, rfl, ?_⟩
  change (UInt64.ofNat (0 + _)).toNat = _
  rw [zero_add, UInt64.toNat_ofNat']
  exact Nat.mod_eq_of_lt (by omega)

theorem atMost_of_below {x : Binary64} {n digits : Nat} (leading : 2 ^ digits ≤ n)
    (last : n < 2 ^ (digits + 1)) (below : (x.exponent + 1074) * 2 ^ 52 + x.significand <
      (digits + 1022) * 2 ^ 52 + rounded n digits) : x.AtMost n := by
  have small := x.significand_lt
  have top := rounded_le last
  unfold AtMost
  rcases lt_trichotomy x.exponent (digits - 52) with lower | same | higher
  · calc x.significand * 2 ^ x.exponent.toNat
        ≤ 2 ^ 53 * 2 ^ x.exponent.toNat := Nat.mul_le_mul_right _ small.le
      _ ≤ 2 ^ digits * 2 ^ (-x.exponent).toNat := by
          rw [← pow_add, ← pow_add]
          exact Nat.pow_le_pow_right (by decide) (by omega)
      _ ≤ n * 2 ^ (-x.exponent).toNat := Nat.mul_le_mul_right _ leading
  · have less : x.significand < rounded n digits := by omega
    unfold rounded at less
    split at less
    · next short =>
        have up : x.exponent.toNat = 0 := by omega
        have down : (-x.exponent).toNat = 52 - digits := by omega
        simpa [up, down] using less.le
    · next long =>
        have up : x.exponent.toNat = digits - 52 := by omega
        have down : (-x.exponent).toNat = 0 := by omega
        have whole : x.significand ≤ n / 2 ^ (digits - 52) :=
          Nat.lt_succ_iff.mp (lt_of_lt_of_le less (roundHalfEven_le _ _))
        rw [up, down, pow_zero, mul_one]
        exact (Nat.le_div_iff_mul_le (Nat.two_pow_pos _)).mp whole
  · have normal := leading_of_exponent (x := x) (by omega)
    omega

/-- A number that lies below the nearest one to a natural does not lie above the natural. -/
theorem atMost_of_bits_lt {x : Binary64} {n : Nat} (positive : x.isNegative = false)
    (below : x.bits.toNat < naturalBits n) : x.AtMost n := by
  unfold naturalBits at below
  split at below
  · omega
  · next nonzero =>
      have magnitude := magnitude_eq positive
      exact atMost_of_below (Nat.log2_self_le nonzero) Nat.lt_log2_self (by omega)

end DuplexRpc.Decimal.Binary64
