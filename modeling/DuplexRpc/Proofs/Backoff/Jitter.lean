import DuplexRpc.Proofs.Backoff.Curve
import DuplexRpc.Proofs.Decimal.Floats

/-!
# Jitter

Machine numbers are a lawful scale, so that a delay is cut to the ceiling before anything is added
to it.  What is added is not cut again, and it is added to whole milliseconds of 64 bits: a delay
passes the ceiling where a quarter of it does not fit below, and falls back to the first
milliseconds where 64 bits cannot hold it.
-/

namespace DuplexRpc.Backoff

/-! ## Machine numbers -/

open Decimal (Binary64) in
instance : LawfulScale Float where
  round_le := by
    intro n y finite short
    have short : ¬ Scale.ofNat n ≤ y := of_decide_eq_false short
    by_cases small : n < 2 ^ 64
    · obtain ⟨c, found, bits⟩ := Binary64.ofQuotient?_one small
      obtain ⟨cfinite, cpositive⟩ :=
        Binary64.finite_of_bits_lt (bits ▸ Binary64.naturalBits_lt small)
      simp only [Scale.ofNat, found] at short
      refine Binary64.nearest_le fun positive => Binary64.atMost_of_bits_lt positive ?_
      exact bits ▸ Binary64.below_of_not_le cfinite cpositive finite positive short
    · have size : UInt64.size = 2 ^ 64 := rfl
      exact (Binary64.nearest_le_max _).trans (by omega)

/-! ## Whole milliseconds -/

section

variable (delay : Nat)

theorem toNat_wholeMillis : (wholeMillis delay).toNat = delay / millisecond % 2 ^ 64 :=
  UInt64.toNat_ofNat'

theorem toNat_jitterRoom : (jitterRoom delay).toNat = delay / millisecond % 2 ^ 64 / 4 := by
  rw [jitterRoom, UInt64.toNat_div, toNat_wholeMillis]
  rfl

theorem jittered_eq (drawn : UInt64) :
    jittered delay drawn = (delay / millisecond + drawn.toNat) % 2 ^ 64 * millisecond := by
  rw [jittered, UInt64.toNat_add, toNat_wholeMillis, Nat.mod_add_mod]

/-- A draw that 64 bits hold with the delay is added to it; any other one leaves less. -/
theorem jittered_cases (drawn : UInt64) :
    (delay / millisecond + drawn.toNat < 2 ^ 64 ∧
      jittered delay drawn = (delay / millisecond + drawn.toNat) * millisecond) ∨
    (2 ^ 64 ≤ delay / millisecond + drawn.toNat ∧
      jittered delay drawn < delay / millisecond * millisecond) := by
  have word := drawn.toNat_lt
  rw [jittered_eq]
  generalize delay / millisecond = millis
  rcases Nat.lt_or_ge (millis + drawn.toNat) (2 ^ 64) with held | lost
  · exact .inl ⟨held, by rw [Nat.mod_eq_of_lt held]⟩
  · have less : (millis + drawn.toNat) % 2 ^ 64 < millis := by omega
    exact .inr ⟨lost, Nat.mul_lt_mul_of_pos_right less millisecond_pos⟩

theorem toNat_min_jitterRoom (drawn : UInt64) :
    (min drawn (jitterRoom delay)).toNat =
      min drawn.toNat (delay / millisecond % 2 ^ 64 / 4) := by
  rw [← toNat_jitterRoom, Nat.min_def]
  exact apply_ite UInt64.toNat (drawn ≤ jitterRoom delay) drawn (jitterRoom delay)

theorem jittered_le_quarter {drawn : UInt64}
    (inside : drawn.toNat ≤ delay / millisecond % 2 ^ 64 / 4) :
    jittered delay drawn ≤ delay + delay / 4 := by
  have whole : delay / millisecond * millisecond ≤ delay := Nat.div_mul_le_self _ _
  rcases jittered_cases delay drawn with ⟨-, added⟩ | ⟨-, less⟩
  · have quarter : drawn.toNat * millisecond ≤ delay / 4 := by
      have bounded : drawn.toNat * 4 ≤ delay / millisecond :=
        ((Nat.le_div_iff_mul_le (by decide)).mp inside).trans (Nat.mod_le _ _)
      rw [Nat.le_div_iff_mul_le (by decide), mul_right_comm]
      exact (Nat.mul_le_mul_right _ bounded).trans whole
    rw [added, Nat.add_mul]
    exact Nat.add_le_add whole quarter
  · exact (less.le.trans whole).trans (Nat.le_add_right _ _)

/-- A ceiling is passed by the first millisecond above it, if there is room for that one. -/
theorem exists_jittered_above {delay ceiling : Nat} (within : delay ≤ ceiling) :
    (∃ drawn, ceiling < jittered delay (min drawn (jitterRoom delay))) ↔
      ceiling / millisecond < delay / millisecond + delay / millisecond / 4 ∧
        ceiling / millisecond + 1 < 2 ^ 64 := by
  have lower : delay / millisecond ≤ ceiling / millisecond := Nat.div_le_div_right within
  have whole : delay / millisecond * millisecond ≤ delay := Nat.div_mul_le_self _ _
  have passes (millis : Nat) : ceiling < millis * millisecond ↔ ceiling / millisecond < millis :=
    (Nat.div_lt_iff_lt_mul millisecond_pos).symm
  have draws (drawn : UInt64) := toNat_min_jitterRoom delay drawn
  have added_or_less (drawn : UInt64) := jittered_cases delay drawn
  generalize ceiling / millisecond = top at lower passes ⊢
  generalize delay / millisecond = millis at lower whole draws added_or_less ⊢
  constructor
  · rintro ⟨drawn, above⟩
    have room := draws drawn
    rcases added_or_less (min drawn (jitterRoom delay)) with ⟨held, added⟩ | ⟨-, less⟩
    · rw [added, passes] at above
      omega
    · exact absurd (above.trans less) (whole.trans within).not_gt
  · rintro ⟨passing, held⟩
    refine ⟨.ofNat (top + 1 - millis), ?_⟩
    have room := draws (.ofNat (top + 1 - millis))
    rw [UInt64.toNat_ofNat'] at room
    rcases added_or_less (min (.ofNat (top + 1 - millis)) (jitterRoom delay)) with
      ⟨-, added⟩ | ⟨lost, -⟩
    · rw [added, passes]
      omega
    · omega

/-- If any draw leaves less than the delay, then the longest does. -/
theorem exists_jittered_below :
    (∃ drawn, jittered delay (min drawn (jitterRoom delay)) < delay / millisecond * millisecond) ↔
      2 ^ 64 ≤ delay / millisecond + delay / millisecond % 2 ^ 64 / 4 := by
  constructor
  · rintro ⟨drawn, below⟩
    rcases jittered_cases delay (min drawn (jitterRoom delay)) with ⟨-, added⟩ | ⟨lost, -⟩
    · rw [added] at below
      exact absurd (Nat.mul_le_mul_right _ (Nat.le_add_right _ _)) below.not_ge
    · rw [toNat_min_jitterRoom] at lost
      exact lost.trans (Nat.add_le_add_left (Nat.min_le_right _ _) _)
  · intro lost
    refine ⟨jitterRoom delay, ?_⟩
    rcases jittered_cases delay (min (jitterRoom delay) (jitterRoom delay)) with longest | longest
    · rw [toNat_min_jitterRoom, toNat_jitterRoom, min_self] at longest
      exact absurd lost longest.1.not_ge
    · exact longest.2

end

/-! ## The range of a delay -/

namespace Exponential

/-- What is not so of the delay before jitter is only so of a delay with jitter. -/
theorem exists_nextDelay {α : Type} [Scale α] (b : Exponential α) (attempt : Nat)
    {p : Nanoseconds → Prop} (base : ¬ p (b.baseDelay attempt)) :
    (∃ drawn, ∃ d ∈ b.nextDelay attempt drawn, p d) ↔
      b.givesUp attempt = false ∧ b.jitter = true ∧ ∃ drawn,
        p (jittered (b.baseDelay attempt) (min drawn (jitterRoom (b.baseDelay attempt)))) := by
  simp only [mem_nextDelay]
  cases b.jitter
  · simp [base]
  · cases b.givesUp attempt <;> simp

/-- A delay never passes the ceiling by more than a quarter.  Without jitter it does not pass it at
all; with jitter some draw does exactly if the ceiling is less than a quarter above the delay, and
64 bits hold the next millisecond.  Some draw falls below the delay exactly if 64 bits do not hold
the longest one. -/
theorem delay_range (b : Exponential Float) (attempt : Nat) :
    let millis := b.baseDelay attempt / millisecond
    let top := b.ceiling / millisecond
    b.baseDelay attempt ≤ b.ceiling ∧
    (∀ drawn, ∀ d ∈ b.nextDelay attempt drawn,
      (b.jitter = false → d = b.baseDelay attempt) ∧
      (b.jitter = true →
        d = (millis + min drawn.toNat (millis % 2 ^ 64 / 4)) % 2 ^ 64 * millisecond) ∧
      d ≤ b.ceiling + b.ceiling / 4) ∧
    ((∃ drawn, ∃ d ∈ b.nextDelay attempt drawn, b.ceiling < d) ↔
      b.givesUp attempt = false ∧ b.jitter = true ∧
        top < millis + millis / 4 ∧ top + 1 < 2 ^ 64) ∧
    ((∃ drawn, ∃ d ∈ b.nextDelay attempt drawn, d < millis * millisecond) ↔
      b.givesUp attempt = false ∧ b.jitter = true ∧ 2 ^ 64 ≤ millis + millis % 2 ^ 64 / 4) := by
  intro millis top
  have within := b.baseDelay_le_ceiling attempt
  have whole : millis * millisecond ≤ b.baseDelay attempt := Nat.div_mul_le_self _ _
  refine ⟨within, fun drawn d given => ?_, ?_, ?_⟩
  · obtain ⟨-, rfl⟩ := mem_nextDelay.mp given
    cases b.jitter with
    | false => exact ⟨fun _ => rfl, nofun, within.trans (Nat.le_add_right _ _)⟩
    | true =>
        have room := toNat_min_jitterRoom (b.baseDelay attempt) drawn
        refine ⟨nofun, fun _ => ?_, ?_⟩
        · rw [if_pos rfl, jittered_eq, room]
        · have quarter := jittered_le_quarter (b.baseDelay attempt)
            (room.trans_le (Nat.min_le_right _ _))
          exact quarter.trans (Nat.add_le_add within (Nat.div_le_div_right within))
  · rw [b.exists_nextDelay attempt within.not_gt, exists_jittered_above within]
  · rw [b.exists_nextDelay attempt whole.not_gt, exists_jittered_below]

def shaken : Exponential Float := { standard with jitter := true }

theorem shaken_delay_within_quarter :
    shaken.nextDelay 6 2500 = some (12500 * millisecond) ∧ shaken.ceiling < 12500 * millisecond ∧
      12500 * millisecond ≤ shaken.ceiling + shaken.ceiling / 4 := by
  have given : shaken.nextDelay 6 2500 = some (12500 * millisecond) := by decide +kernel
  exact ⟨given, by decide, ((delay_range shaken 6).2.1 2500 _ given).2.2⟩

/-- Two milliseconds more than 64 bits hold. -/
def endless : Exponential Float where
  base := (2 ^ 64 + 2) * millisecond
  decay := 1
  ceiling := (2 ^ 64 + 2) * millisecond
  jitter := true

theorem delays_out_of_range :
    (∃ d ∈ shaken.nextDelay 6 2500, shaken.ceiling < d) ∧
      ∃ d ∈ endless.nextDelay 0 0, d < endless.baseDelay 0 / millisecond * millisecond := by
  refine ⟨⟨12500 * millisecond, ?_, by decide⟩, ⟨2 * millisecond, ?_, ?_⟩⟩
  all_goals decide +kernel

end Exponential
end DuplexRpc.Backoff
