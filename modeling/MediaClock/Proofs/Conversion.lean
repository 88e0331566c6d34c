import Mathlib.Algebra.Order.Field.Rat
import Mathlib.Tactic.Positivity
import MediaClock.Proofs.Rounding

/-!
# Conversions as rational numbers

A tick of a timebase lasts a rational number of microseconds, its `tickLength`.  A conversion
that does not saturate is off by at most half of the unit that it converts to.
-/

namespace MediaClock

/-- A rounded quotient is off by at most a half. -/
theorem abs_roundDiv_sub_le (numer : Int) {den : Int} (pos : 0 < den) :
  |(roundDiv numer den : ℚ) - numer / den| ≤ 1 / 2
  := by
  obtain ⟨below, above⟩ := roundDiv_near numer pos
  have pos' : (0 : ℚ) < den := by exact_mod_cast pos
  have below' : -(den : ℚ) ≤ 2 * (roundDiv numer den * den - numer) := by exact_mod_cast below
  have above' : 2 * (roundDiv numer den * den - numer) ≤ (den : ℚ) := by exact_mod_cast above
  have split : (roundDiv numer den : ℚ) - numer / den
      = (roundDiv numer den * den - numer) / den := by
    rw [sub_div, mul_div_cancel_right₀ _ pos'.ne']
  rw [split, abs_div, abs_of_pos pos', div_le_iff₀ pos', abs_le]
  constructor <;> linarith

namespace Timebase

/-- The number of microseconds that a tick lasts. -/
def tickLength (t : Timebase) : ℚ := t.numInt * microsPerSecond / t.denInt

theorem tickLength_pos (t : Timebase) :
  0 < t.tickLength
  := by
  have num : (0 : ℚ) < t.numInt := by exact_mod_cast t.numInt_pos
  have den : (0 : ℚ) < t.denInt := by exact_mod_cast t.denInt_pos
  have second : (0 : ℚ) < microsPerSecond := by norm_num [microsPerSecond]
  rw [tickLength]
  positivity

/-- Ticks turned into microseconds are off by at most half of a microsecond. -/
theorem abs_toMicros_sub_le (t : Timebase) {ticks : Int}
    (fits : Saturating.Fits (t.microsOf .exact ticks)) :
  |(t.toMicros .exact ticks : ℚ) - ticks * t.tickLength| ≤ 1 / 2
  := by
  have off := abs_roundDiv_sub_le (ticks * t.numInt * microsPerSecond) t.denInt_pos
  rw [toMicros_eq_clamp, Saturating.clamp_of_fits fits, microsOf, tickLength]
  push_cast at off
  rw [← mul_div_assoc, ← mul_assoc]
  apply off

/-- Microseconds turned into ticks are off by at most half of a tick. -/
theorem abs_toTicks_sub_le (t : Timebase) {micros : Int}
    (fits : Saturating.Fits (t.ticksOf .exact micros)) :
  |t.toTicks .exact micros * t.tickLength - micros| ≤ t.tickLength / 2
  := by
  have pos := t.tickLength_pos
  have off := abs_roundDiv_sub_le (micros * t.denInt) t.microsPerTick_pos
  have quotient : ((micros * t.denInt : Int) : ℚ) / (t.numInt * microsPerSecond : Int)
      = micros / t.tickLength := by
    rw [tickLength, div_div_eq_mul_div]
    push_cast
    rfl
  rw [toTicks_eq_clamp, Saturating.clamp_of_fits fits, ticksOf]
  rw [quotient] at off
  calc |(roundDiv (micros * t.denInt) (t.numInt * microsPerSecond) : ℚ) * t.tickLength - micros|
    _ = |(roundDiv (micros * t.denInt) (t.numInt * microsPerSecond) : ℚ) - micros / t.tickLength|
          * t.tickLength := by
      rw [← abs_of_pos pos, ← abs_mul, abs_of_pos pos, sub_mul, div_mul_cancel₀ _ pos.ne']
    _ ≤ 1 / 2 * t.tickLength := mul_le_mul_of_nonneg_right off pos.le
    _ = t.tickLength / 2 := by ring

end Timebase

end MediaClock
