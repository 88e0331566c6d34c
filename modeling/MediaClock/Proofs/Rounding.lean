import Mathlib.Tactic.Linarith
import Mathlib.Tactic.Ring
import MediaClock.Timebase

/-!
# Rounding to the nearest integer

`roundDiv numer den` lies within half of `den` of the quotient that it stands for, and no
other integer lies closer.  So it is monotone in `numer`.  It is the same for all fractions with
one value.

A conversion rounds a quotient and clamps it.  `microsOf` and `ticksOf` are the conversions
before they are clamped, and a conversion does not saturate when they fit.  In a timebase
whose ticks are no shorter than a microsecond, ticks that are turned into microseconds and
back again are what they were.
-/

namespace MediaClock

/-! ### Quotients -/

theorem roundDiv_neg (numer den : Int) :
  roundDiv (-numer) den = -roundDiv numer den
  := by
  simp only [roundDiv, Int.neg_tmod, Int.natAbs_neg, Int.neg_tdiv, Int.sign_neg]
  split <;> ring

/-- A quotient that is not negative is rounded down by less than a half. -/
theorem roundDiv_bounds_of_nonneg {numer den : Int} (nonneg : 0 ≤ numer) (pos : 0 < den) :
  -den < 2 * (roundDiv numer den * den - numer) ∧ 2 * (roundDiv numer den * den - numer) ≤ den
  := by
  have whole := Int.mul_ediv_add_emod numer den
  have low := Int.emod_nonneg numer pos.ne'
  have high := Int.emod_lt_of_pos numer pos
  rw [roundDiv, Int.tmod_eq_emod_of_nonneg nonneg, Int.tdiv_eq_ediv_of_nonneg nonneg]
  split
  · have ne : numer ≠ 0 := by
      rintro rfl
      rw [Int.zero_emod] at *
      omega
    rw [Int.sign_eq_one_of_pos (by omega), add_mul, mul_comm _ den]
    omega
  · rw [mul_comm _ den]
    omega

/-- A quotient that is not positive is rounded up by less than a half. -/
theorem roundDiv_bounds_of_nonpos {numer den : Int} (nonpos : numer ≤ 0) (pos : 0 < den) :
  -den ≤ 2 * (roundDiv numer den * den - numer) ∧ 2 * (roundDiv numer den * den - numer) < den
  := by
  have mirror := roundDiv_bounds_of_nonneg (Int.neg_nonneg_of_nonpos nonpos) pos
  rw [roundDiv_neg, neg_mul] at mirror
  omega

/-- A rounded quotient, times its divisor, is off by at most half of the divisor. -/
theorem roundDiv_near (numer : Int) {den : Int} (pos : 0 < den) :
  -den ≤ 2 * (roundDiv numer den * den - numer) ∧ 2 * (roundDiv numer den * den - numer) ≤ den
  := by
  obtain nonneg | nonpos := Int.le_total 0 numer
  · have := roundDiv_bounds_of_nonneg nonneg pos
    omega
  · have := roundDiv_bounds_of_nonpos nonpos pos
    omega

/-- An integer that is off by less than half of the divisor is the rounded quotient. -/
theorem roundDiv_unique {numer den q : Int} (low : -den < 2 * (q * den - numer))
    (high : 2 * (q * den - numer) < den) :
  roundDiv numer den = q
  := by
  have pos : 0 < den := by omega
  obtain ⟨below, above⟩ := roundDiv_near numer pos
  apply le_antisymm
  · apply le_of_not_gt
    intro gt
    have next : q + 1 ≤ roundDiv numer den := gt
    have := Int.mul_le_mul_of_nonneg_right next pos.le
    rw [add_mul] at this
    omega
  · apply le_of_not_gt
    intro lt
    have next : roundDiv numer den + 1 ≤ q := lt
    have := Int.mul_le_mul_of_nonneg_right next pos.le
    rw [add_mul] at this
    omega

theorem roundDiv_mono {m n den : Int} (le : m ≤ n) (pos : 0 < den) :
  roundDiv m den ≤ roundDiv n den
  := by
  obtain rfl | lt := le.eq_or_lt
  · rfl
  · obtain ⟨-, above⟩ := roundDiv_near m pos
    obtain ⟨below, -⟩ := roundDiv_near n pos
    apply le_of_not_gt
    intro gt
    have next : roundDiv n den + 1 ≤ roundDiv m den := gt
    have := Int.mul_le_mul_of_nonneg_right next pos.le
    rw [add_mul] at this
    omega

/-- A quotient without remainder is not rounded. -/
theorem roundDiv_mul (q : Int) {den : Int} (pos : 0 < den) :
  roundDiv (q * den) den = q
  := by
  apply roundDiv_unique <;> omega

/-- A rounded quotient stays the same if its fraction is expanded, also where it is a tie. -/
theorem roundDiv_mul_mul_of_pos {k : Int} (pos : 0 < k) (numer den : Int) :
  roundDiv (k * numer) (k * den) = roundDiv numer den
  := by
  have half : k * den ≤ 2 * (k * numer.tmod den).natAbs ↔ den ≤ 2 * (numer.tmod den).natAbs := by
    rw [Int.natAbs_mul, Int.natCast_mul, Int.natAbs_of_nonneg pos.le, Int.mul_left_comm 2 k]
    apply Int.mul_le_mul_left pos
  rw [roundDiv, roundDiv, Int.mul_tdiv_mul_of_pos _ _ pos, Int.mul_tmod_mul_of_pos _ _ pos,
    Int.sign_mul, Int.sign_eq_one_of_pos pos, one_mul, if_congr half rfl rfl]

/-- A rounded quotient comes from the value of its fraction, however that is written. -/
theorem roundDiv_eq_of_cross {m n d e : Int} (posLeft : 0 < d) (posRight : 0 < e)
    (cross : m * e = n * d) :
  roundDiv m d = roundDiv n e
  := calc roundDiv m d
    _ = roundDiv (e * m) (e * d) := (roundDiv_mul_mul_of_pos posRight m d).symm
    _ = roundDiv (d * n) (d * e) := by rw [mul_comm e m, cross, mul_comm n d, mul_comm e d]
    _ = roundDiv n e := roundDiv_mul_mul_of_pos posLeft n e

/-- A quotient scaled from a smaller divisor to a larger one and back comes back. -/
theorem roundDiv_roundDiv (t : Int) {small large : Int} (pos : 0 < small) (le : small ≤ large) :
  roundDiv (roundDiv (t * large) small * small) large = t
  := by
  obtain rfl | lt := le.eq_or_lt
  · rw [roundDiv_mul t pos, roundDiv_mul t pos]
  · obtain ⟨below, above⟩ := roundDiv_near (t * large) pos
    apply roundDiv_unique <;> omega

/-! ### Conversions -/

namespace Timebase

/-- The number of microseconds that some ticks last, before it is clamped. -/
def microsOf (t : Timebase) (mode : Conversion) (ticks : Int) : Int :=
  match mode with
  | .float => integerPart (Float.ofInt ticks * (t.secondsPerTick * 1000000.0))
  | .exact => roundDiv (ticks * t.numInt * microsPerSecond) t.denInt

/-- The number of ticks in some microseconds, before it is clamped. -/
def ticksOf (t : Timebase) (mode : Conversion) (micros : Int) : Int :=
  match mode with
  | .float => integerPart (Float.ofInt micros * (t.ticksPerSecond / 1000000.0))
  | .exact => roundDiv (micros * t.denInt) (t.numInt * microsPerSecond)

theorem toMicros_eq_clamp (t : Timebase) (mode : Conversion) (ticks : Int) :
  t.toMicros mode ticks = Saturating.clamp (t.microsOf mode ticks)
  := by
  cases mode <;> rfl

theorem toTicks_eq_clamp (t : Timebase) (mode : Conversion) (micros : Int) :
  t.toTicks mode micros = Saturating.clamp (t.ticksOf mode micros)
  := by
  cases mode <;> rfl

theorem fits_toMicros (t : Timebase) (mode : Conversion) (ticks : Int) :
  Saturating.Fits (t.toMicros mode ticks)
  := by
  rw [toMicros_eq_clamp]
  apply Saturating.fits_clamp

/-- The number of microseconds per tick has this denominator and that numerator. -/
theorem microsPerTick_pos (t : Timebase) :
  0 < t.numInt * microsPerSecond
  := Int.mul_pos t.numInt_pos (by decide)

theorem numInt_lt (t : Timebase) :
  t.numInt < 4294967296
  := by
  have := t.num.toNat_lt
  rw [numInt]
  omega

theorem denInt_lt (t : Timebase) :
  t.denInt < 4294967296
  := by
  have := t.den.toNat_lt
  rw [denInt]
  omega

theorem toTicks_zero (t : Timebase) :
  t.toTicks .exact 0 = 0
  := by
  rw [toTicks_eq_clamp, ticksOf, zero_mul]
  have zero := roundDiv_mul 0 t.microsPerTick_pos
  rw [zero_mul] at zero
  rw [zero]
  apply Saturating.clamp_of_fits
  decide

theorem toTicks_mono (t : Timebase) {a b : Int} (le : a ≤ b) :
  t.toTicks .exact a ≤ t.toTicks .exact b
  := by
  apply Saturating.clamp_mono
  apply roundDiv_mono _ t.microsPerTick_pos
  apply Int.mul_le_mul_of_nonneg_right le t.denInt_pos.le

/-- Ticks that are no shorter than a microsecond survive the way to microseconds and back,
if neither conversion saturates. -/
theorem toTicks_toMicros (t : Timebase) (coarse : t.denInt ≤ t.numInt * microsPerSecond)
    {ticks : Int} (fits : Saturating.Fits ticks)
    (fitsMicros : Saturating.Fits (t.microsOf .exact ticks)) :
  t.toTicks .exact (t.toMicros .exact ticks) = ticks
  := by
  rw [toMicros_eq_clamp, Saturating.clamp_of_fits fitsMicros, toTicks_eq_clamp, ticksOf, microsOf,
    mul_assoc, roundDiv_roundDiv ticks t.denInt_pos coarse, Saturating.clamp_of_fits fits]

end Timebase

end MediaClock
