import Mathlib
import DuplexRpc.Proofs.Decimal.Naturals

/-!
# Machine numbers as binary64 numbers

Machine numbers are compared piece by piece: sign, exponent and significand are taken out of the bit
pattern.  They are the fields of a `Binary64`, which survives the way into a machine number and back
if it is finite, and numbers without a sign are in the order of their bit patterns.
-/

namespace DuplexRpc.Decimal.Binary64

open Float.Model Float.Model.UnpackedFloat

variable (x : Binary64)

/-! ## The pieces of a number -/

def sign : Sign := if x.isNegative then .negative else .positive

/-- A finite number in pieces. -/
def unpacked : UnpackedFloat :=
  if empty : x.significand = 0 then .zero x.sign
  else .finite x.sign x.significand x.exponent (Nat.pos_of_ne_zero empty)

theorem isFinite_unpacked : x.unpacked.isFinite = true := by
  unfold unpacked
  split <;> rfl

/-! ## Taking a number apart -/

theorem ofBitVec_unpackSign :
    Sign.ofBitVec (@unpackSign .binary64 x.bits.toBitVec) = x.sign := by
  have size := x.bits.toNat_lt
  have top : x.bits.toNat >>> 63 < 2 := by
    rw [Nat.shiftRight_eq_div_pow]
    omega
  have field : (@unpackSign .binary64 x.bits.toBitVec).toNat = x.bits.toNat >>> 63 := by
    simpa [unpackSign] using Nat.mod_eq_of_lt top
  simp only [Sign.ofBitVec, ← BitVec.toNat_inj, field, sign, isNegative, beq_iff_eq]
  rcases (by omega : x.bits.toNat >>> 63 = 0 ∨ x.bits.toNat >>> 63 = 1) with zero | one
  · rw [zero]
    rfl
  · rw [one]
    rfl

theorem toNat_unpackExponent :
    (@unpackExponent .binary64 x.bits.toBitVec).toNat = x.exponentField := by
  simp [unpackExponent, exponentField]

theorem toNat_unpackMantissa :
    (@unpackMantissa .binary64 x.bits.toBitVec).toNat = x.fractionField := by
  simp [unpackMantissa, fractionField, implicitBit_eq]

theorem unpackExponent_eq_iff (e : BitVec 11) :
    @unpackExponent .binary64 x.bits.toBitVec = e ↔ x.exponentField = e.toNat := by
  rw [← BitVec.toNat_inj, toNat_unpackExponent]

theorem unpackMantissa_eq_iff (m : BitVec 52) :
    @unpackMantissa .binary64 x.bits.toBitVec = m ↔ x.fractionField = m.toNat := by
  rw [← BitVec.toNat_inj, toNat_unpackMantissa]

theorem unpack_eq (finite : x.isFinite = true) :
    UnpackedFloat.unpack .binary64 x.bits.toBitVec = x.unpacked := by
  have finite : x.exponentField ≠ 2047 := by simpa [isFinite] using finite
  have bias : ((Format.binary64.exponentBias : Nat) : Int) = 1023 := rfl
  have leading : (1#1 ++ @unpackMantissa .binary64 x.bits.toBitVec).toNat =
      implicitBit + x.fractionField := by
    have bounded : x.fractionField < 2 ^ 52 := Nat.mod_lt _ (by decide)
    rw [BitVec.toNat_append, toNat_unpackMantissa, ← Nat.shiftLeft_add_eq_or_of_lt bounded]
    rfl
  simp only [UnpackedFloat.unpack, ofBitVec_unpackSign, toNat_unpackExponent,
    toNat_unpackMantissa, leading, bias]
  unfold unpacked
  split
  · next special => exact absurd ((x.unpackExponent_eq_iff _).mp special) finite
  · split
    · next small =>
        have small : x.exponentField = 0 := (x.unpackExponent_eq_iff _).mp small
        split
        · next blank =>
          have blank : x.fractionField = 0 := (x.unpackMantissa_eq_iff _).mp blank
          simp [significand, small, blank]
        · next filled =>
          have filled : x.fractionField ≠ 0 := fun blank =>
            filled ((x.unpackMantissa_eq_iff _).mpr blank)
          simp [significand, exponent, small, filled]
    · next normal =>
        have normal : x.exponentField ≠ 0 := fun small =>
          normal ((x.unpackExponent_eq_iff _).mpr small)
        simp [significand, exponent, normal, implicitBit_eq]

/-! ## Machine numbers -/

/-- Keeping the bit pattern of a number in a machine number loses nothing. -/
theorem ofFloat_toFloat (finite : x.isFinite = true) : ofFloat x.toFloat = x := by
  have finite : x.exponentField ≠ 2047 := by simpa [isFinite] using finite
  have number : ¬ @isNaNBits .binary64 x.bits.toBitVec := fun isNaN =>
    finite ((x.unpackExponent_eq_iff (-1#11)).mp (of_decide_eq_true isNaN).1)
  have kept := @pack_unpack .binary64 x.bits.toBitVec (by decide)
  rw [if_neg number] at kept
  unfold ofFloat toFloat Float.ofBits Float.toBits Float.Model.ofBits Float.Model.pack
  simp only [kept]

theorem unpack_toModel (y : Float) : y.toModel.unpack =
    UnpackedFloat.unpack .binary64 (ofFloat y).bits.toBitVec := rfl

theorem isFinite_ofFloat (y : Float) : (ofFloat y).isFinite = y.isFinite := by
  change _ = (UnpackedFloat.unpack .binary64 (ofFloat y).bits.toBitVec).isFinite
  cases finite : (ofFloat y).isFinite with
  | true => rw [unpack_eq _ finite, isFinite_unpacked]
  | false =>
      have special : (ofFloat y).exponentField = 2047 := by simpa [isFinite] using finite
      have ones := (unpackExponent_eq_iff (ofFloat y) (-1#11)).mpr special
      simp only [UnpackedFloat.unpack, if_pos ones]
      split <;> rfl

theorem le_iff (a b : Float) : a ≤ b ↔ a.toModel.unpack.le b.toModel.unpack = true :=
  decide_eq_true_iff

/-- Of two numbers without a sign, the one that the other does not reach has the greater bit
pattern. -/
theorem below_of_not_le {c : Binary64} {y : Float} (cfinite : c.isFinite = true)
    (cpositive : c.isNegative = false) (yfinite : y.isFinite = true)
    (ypositive : (ofFloat y).isNegative = false) (short : ¬ c.toFloat ≤ y) :
    (ofFloat y).bits.toNat < c.bits.toNat := by
  rw [le_iff, unpack_toModel, unpack_toModel, ofFloat_toFloat c cfinite, unpack_eq _ cfinite,
    unpack_eq _ ((isFinite_ofFloat y).trans yfinite)] at short
  have cbits := magnitude_eq cpositive
  have ybits := magnitude_eq ypositive
  have clowest := c.neg_1074_le_exponent
  have ylowest := (ofFloat y).neg_1074_le_exponent
  have cleading (above : -1074 < c.exponent) := leading_of_exponent above
  have yleading (above : -1074 < (ofFloat y).exponent) := leading_of_exponent above
  have bounded := (ofFloat y).significand_lt
  -- a zero is told by its constructor, so that two of the four pairs cannot be short
  by_cases cempty : c.significand = 0 <;> by_cases yempty : (ofFloat y).significand = 0 <;>
    simp [unpacked, cempty, yempty, sign, cpositive, ypositive, UnpackedFloat.le,
      UnpackedFloat.compare, Ordering.then_eq_gt, compare_gt_iff_gt] at short
  · omega
  · omega

end DuplexRpc.Decimal.Binary64
