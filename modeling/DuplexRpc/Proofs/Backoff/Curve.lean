import Mathlib.Data.Rat.Floor
import DuplexRpc.Backoff

/-!
# The curve of the delays

Over exact fractions the delay follows the power of its growth factor, rounded to whole
milliseconds, until the power reaches the ceiling.  That the ceiling holds depends on little of the
numbers; it is shown for every lawful scale, and the fractions are one.
-/

namespace DuplexRpc.Backoff

variable {α : Type}

theorem millisecond_pos : 0 < millisecond := by decide

/-! ## The ceiling -/

/-- A finite number that has not reached a natural is not rounded past it. -/
class LawfulScale (α : Type) [Scale α] : Prop where
  round_le {n : Nat} {x : α} : Scale.isFinite x = true → Scale.le (Scale.ofNat n) x = false →
    Scale.round x ≤ n

theorem Exponential.baseDelay_le_ceiling [Scale α] [LawfulScale α] (b : Exponential α)
    (attempt : Nat) : b.baseDelay attempt ≤ b.ceiling := by
  simp only [baseDelay]
  split
  · exact Nat.le_refl _
  · next below =>
      simp only [Bool.or_eq_true, Bool.not_eq_true', not_or, Bool.not_eq_false,
        Bool.not_eq_true] at below
      exact Nat.le_trans (Nat.mul_le_mul_right _ (LawfulScale.round_le below.1 below.2))
        (Nat.div_mul_le_self _ _)

/-! ## Giving up -/

namespace Exponential

theorem givesUp_iff (b : Exponential α) (attempt : Nat) :
    b.givesUp attempt = true ↔ ∃ limit ∈ b.maxAttempts, limit ≤ attempt := by
  unfold givesUp
  cases b.maxAttempts <;> simp

theorem mem_nextDelay [Scale α] {b : Exponential α} {attempt : Nat} {drawn : UInt64}
    {d : Nanoseconds} :
    d ∈ b.nextDelay attempt drawn ↔ b.givesUp attempt = false ∧
      d = if b.jitter then
          jittered (b.baseDelay attempt) (min drawn (jitterRoom (b.baseDelay attempt)))
        else b.baseDelay attempt := by
  unfold nextDelay
  cases b.givesUp attempt <;> cases b.jitter <;> simp [eq_comm]

end Exponential

/-! ## Exact fractions -/

instance : Scale ℚ where
  ofNat n := n
  mul := (· * ·)
  isFinite _ := true
  le a b := a ≤ b
  round x := min ⌊x + 1 / 2⌋₊ (UInt64.size - 1)

theorem floor_add_half_le {n : Nat} {x : ℚ} (below : x ≤ n) : ⌊x + 1 / 2⌋₊ ≤ n := by
  refine Nat.lt_succ_iff.mp ((Nat.floor_lt' n.succ_ne_zero).mpr ?_)
  push_cast
  linarith

instance : LawfulScale ℚ where
  round_le := by
    intro n x _ below
    have below : x < n := by simpa [Scale.le, Scale.ofNat] using below
    exact Nat.le_trans (Nat.min_le_left _ _) (floor_add_half_le below.le)

theorem powerOnto_eq (acc a : ℚ) (n : Nat) : powerOnto acc a n = acc * a ^ n := by
  induction n using Nat.strongRecOn generalizing acc a with
  | ind n ih =>
      have halves : a ^ n = a ^ (n % 2) * (a * a) ^ (n / 2) := by
        rw [← pow_two, ← pow_mul, ← pow_add, Nat.mod_add_div]
      rw [powerOnto]
      simp only [Scale.mul]
      rcases Nat.mod_two_eq_zero_or_one n with even | odd
      · by_cases last : n / 2 = 0
        · obtain rfl : n = 0 := by omega
          simp
        · simp only [even, zero_ne_one, if_false, last, ih (n / 2) (by omega), halves, pow_zero,
            one_mul]
      · by_cases last : n / 2 = 0
        · obtain rfl : n = 1 := by omega
          simp
        · simp only [odd, if_true, last, if_false, ih (n / 2) (by omega), halves, pow_one,
            mul_assoc]

theorem power_eq (a : ℚ) (n : Nat) : power a n = a ^ n := by
  simp [power, powerOnto_eq, Scale.ofNat]

theorem growthFactor_eq (decay : ℚ) : growthFactor decay = max decay 1 := by
  by_cases grows : 1 ≤ decay
  · simp [growthFactor, Scale.isFinite, Scale.le, Scale.ofNat, grows]
  · simp [growthFactor, Scale.isFinite, Scale.le, Scale.ofNat, grows, (not_le.mp grows).le]

namespace Exponential

/-- The exact delay in milliseconds, without a ceiling. -/
def curve (b : Exponential ℚ) (attempt : Nat) : ℚ :=
  (b.base / millisecond : Nat) * max b.decay 1 ^ min attempt maxExponent

variable (b : Exponential ℚ)

theorem baseDelay_eq (attempt : Nat) :
    b.baseDelay attempt =
      if (b.ceiling / millisecond : Nat) ≤ b.curve attempt then b.ceiling
      else min ⌊b.curve attempt + 1 / 2⌋₊ (UInt64.size - 1) * millisecond := by
  simp [baseDelay, curve, power_eq, growthFactor_eq, Scale.mul, Scale.ofNat, Scale.isFinite,
    Scale.le, Scale.round]

theorem curve_mono : Monotone b.curve := by
  intro first second later
  have shorter : min first maxExponent ≤ min second maxExponent := min_le_min_right _ later
  exact mul_le_mul_of_nonneg_left (pow_le_pow_right₀ (le_max_right _ _) shorter)
    (Nat.cast_nonneg _)

theorem base_le_curve (attempt : Nat) : (b.base / millisecond : Nat) ≤ b.curve attempt :=
  le_mul_of_one_le_right (Nat.cast_nonneg _) (one_le_pow₀ (le_max_right _ _))

theorem baseDelay_mono : Monotone b.baseDelay := by
  intro first second later
  by_cases reached : (b.ceiling / millisecond : Nat) ≤ b.curve second
  · rw [b.baseDelay_eq second, if_pos reached]
    exact b.baseDelay_le_ceiling first
  · have before : ¬ (b.ceiling / millisecond : Nat) ≤ b.curve first :=
      fun reached' => reached (reached'.trans (b.curve_mono later))
    rw [b.baseDelay_eq, b.baseDelay_eq, if_neg reached, if_neg before]
    refine Nat.mul_le_mul_right _ (min_le_min_right _ (Nat.floor_mono ?_))
    exact add_le_add_left (b.curve_mono later) _

theorem le_baseDelay (attempt : Nat) :
    min (min (b.base / millisecond) (UInt64.size - 1) * millisecond) b.ceiling ≤
      b.baseDelay attempt := by
  rw [b.baseDelay_eq]
  split
  · exact Nat.min_le_right _ _
  · refine (Nat.min_le_left _ _).trans (Nat.mul_le_mul_right _ (min_le_min_right _ ?_))
    refine Nat.le_floor ((b.base_le_curve attempt).trans ?_)
    linarith

/-- The delays, without jitter, of every attempt. -/
theorem delays_follow_curve :
    (∀ attempt, b.baseDelay attempt =
      if (b.ceiling / millisecond : Nat) ≤ b.curve attempt then b.ceiling
      else min ⌊b.curve attempt + 1 / 2⌋₊ (2 ^ 64 - 1) * millisecond) ∧
    (∀ attempt, b.baseDelay attempt ≤ b.ceiling ∧
      min (min (b.base / millisecond) (2 ^ 64 - 1) * millisecond) b.ceiling ≤
        b.baseDelay attempt) ∧
    Monotone b.baseDelay ∧
    (b.jitter = false → ∀ attempt drawn,
      (b.nextDelay attempt drawn = none ↔ ∃ limit ∈ b.maxAttempts, limit ≤ attempt) ∧
      ∀ d ∈ b.nextDelay attempt drawn, d = b.baseDelay attempt) := by
  refine ⟨b.baseDelay_eq, fun attempt => ⟨b.baseDelay_le_ceiling attempt, b.le_baseDelay attempt⟩,
    b.baseDelay_mono, fun steady attempt drawn => ⟨?_, fun d given => ?_⟩⟩
  · rw [nextDelay_eq_none, givesUp_iff]
  · simpa [steady] using (mem_nextDelay.mp given).2

/-- Half as long again for every failure, from a second to ten, and no more than twenty times. -/
def halfAgain : Exponential ℚ where
  base := 1000 * millisecond
  decay := 3 / 2
  ceiling := 10000 * millisecond
  maxAttempts := some 20

theorem halfAgain_delays :
    halfAgain.jitter = false ∧ halfAgain.baseDelay 2 = 2250 * millisecond ∧
      halfAgain.baseDelay 6 = halfAgain.ceiling ∧ halfAgain.nextDelay 19 7 ≠ none ∧
      halfAgain.nextDelay 20 7 = none := by
  obtain ⟨delay, -, -, given⟩ := delays_follow_curve halfAgain
  have two : halfAgain.curve 2 = 2250 := by
    norm_num [curve, halfAgain, millisecond, maxExponent]
  have six : (10000 : ℚ) ≤ halfAgain.curve 6 := by
    norm_num [curve, halfAgain, millisecond, maxExponent]
  have top : halfAgain.ceiling / millisecond = 10000 := by decide
  have half : ⌊(2250 + 1 / 2 : ℚ)⌋₊ = 2250 := (Nat.floor_eq_iff (by norm_num)).mpr (by norm_num)
  refine ⟨rfl, ?_, ?_, ?_, ?_⟩
  · rw [delay, two, top, half]
    norm_num
  · rw [delay, top, if_pos (by exact_mod_cast six)]
  · rw [ne_eq, (given rfl 19 7).1]
    simp [halfAgain]
  · rw [(given rfl 20 7).1]
    simp [halfAgain]

end Exponential

end DuplexRpc.Backoff
