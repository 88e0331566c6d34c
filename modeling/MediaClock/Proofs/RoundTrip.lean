import Mathlib.Data.Int.Interval
import MediaClock.Proofs.Rounding

/-!
# Which way back is lossless

A number that is scaled from one divisor to another one and back comes back if the other
divisor is no smaller.  If it is smaller, the numbers up to the first divisor have too few
images: two of them fall together, and one does not come back.

Exact conversion scales a number of ticks from the denominator of the timebase to the
microseconds in as many seconds as its numerator.  So ticks survive the way to microseconds
and back exactly if a tick is no shorter than a microsecond, and microseconds survive the
way to ticks and back exactly if it is no longer.
-/

namespace MediaClock

/-! ### Scaling -/

section Scaling

variable {d e n : Int}

/-- The numbers from zero up to one divisor are scaled to those from zero up to the other one. -/
theorem roundDiv_bounds (pos : 0 < d) (nonneg : 0 ≤ e) (bounds : 0 ≤ n ∧ n ≤ d) :
  0 ≤ roundDiv (n * e) d ∧ roundDiv (n * e) d ≤ e
  := by
  obtain ⟨low, high⟩ := bounds
  constructor
  · calc 0
      _ = roundDiv (0 * d) d := (roundDiv_mul 0 pos).symm
      _ ≤ roundDiv (n * e) d := by
        apply roundDiv_mono _ pos
        rw [zero_mul]
        apply Int.mul_nonneg low nonneg
  · calc roundDiv (n * e) d
      _ ≤ roundDiv (e * d) d := by
        apply roundDiv_mono _ pos
        rw [mul_comm e d]
        apply Int.mul_le_mul_of_nonneg_right high nonneg
      _ = e := roundDiv_mul e pos

/-- Scaling to a smaller divisor takes two numbers to one. -/
theorem exists_ne_roundDiv_eq (nonneg : 0 ≤ e) (lt : e < d) :
  ∃ m n, (0 ≤ m ∧ m ≤ d) ∧ (0 ≤ n ∧ n ≤ d) ∧ m ≠ n
    ∧ roundDiv (m * e) d = roundDiv (n * e) d
  := by
  -- There are `d + 1` numbers, but only `e + 1` places for them.
  have fewer : (Finset.Icc 0 e).card < (Finset.Icc 0 d).card := by
    rw [Int.card_Icc, Int.card_Icc]
    omega
  obtain ⟨m, memM, n, memN, ne, same⟩ :=
    Finset.exists_ne_map_eq_of_card_lt_of_maps_to (f := fun n => roundDiv (n * e) d) fewer <| by
      intro n mem
      apply Finset.mem_Icc.mpr
      apply roundDiv_bounds (nonneg.trans_lt lt) nonneg (Finset.mem_Icc.mp mem)
  exact ⟨m, n, Finset.mem_Icc.mp memM, Finset.mem_Icc.mp memN, ne, same⟩

/-- A number scaled from one divisor to another one and back, clamped on the way. -/
def wayBack (d e n : Int) : Int :=
  Saturating.clamp (roundDiv (Saturating.clamp (roundDiv (n * e) d) * d) e)

/-- The way to another divisor and back loses nothing that it does not clamp exactly if the
other divisor is no smaller. -/
theorem wayBack_eq_self_iff (posD : 0 < d) (posE : 0 < e) (fitsD : Saturating.Fits d)
    (fitsE : Saturating.Fits e) :
  (∀ n, Saturating.Fits n → Saturating.Fits (roundDiv (n * e) d) → wayBack d e n = n) ↔ d ≤ e
  := by
  constructor
  · intro back
    apply le_of_not_gt
    intro lt
    obtain ⟨m, n, boundsM, boundsN, ne, same⟩ := exists_ne_roundDiv_eq posE.le lt
    have back {k : Int} (bounds : 0 ≤ k ∧ k ≤ d) : wayBack d e k = k := by
      apply back k (Saturating.fits_of_bounds fitsD bounds)
      apply Saturating.fits_of_bounds fitsE (roundDiv_bounds posD posE.le bounds)
    apply ne
    calc m
      _ = wayBack d e m := (back boundsM).symm
      _ = wayBack d e n := by rw [wayBack, same, wayBack]
      _ = n := back boundsN
  · intro le n fits fitsImage
    rw [wayBack, Saturating.clamp_of_fits fitsImage, roundDiv_roundDiv n posD le,
      Saturating.clamp_of_fits fits]

end Scaling

/-! ### Conversions -/

namespace Timebase

variable (t : Timebase)

theorem fits_denInt :
  Saturating.Fits t.denInt
  := by
  have := t.denInt_pos
  have := t.denInt_lt
  simp only [Saturating.Fits, Saturating.lowest, Saturating.highest]
  omega

theorem fits_microsPerTick :
  Saturating.Fits (t.numInt * microsPerSecond)
  := by
  have := t.numInt_pos
  have := t.numInt_lt
  simp only [Saturating.Fits, Saturating.lowest, Saturating.highest, microsPerSecond]
  omega

theorem microsOf_exact (ticks : Int) :
  t.microsOf .exact ticks = roundDiv (ticks * (t.numInt * microsPerSecond)) t.denInt
  := by rw [microsOf, mul_assoc]

theorem toTicks_toMicros_eq (ticks : Int) :
  t.toTicks .exact (t.toMicros .exact ticks)
    = wayBack t.denInt (t.numInt * microsPerSecond) ticks
  := by rw [wayBack, ← microsOf_exact, ← toMicros_eq_clamp, toTicks]

theorem toMicros_toTicks_eq (micros : Int) :
  t.toMicros .exact (t.toTicks .exact micros)
    = wayBack (t.numInt * microsPerSecond) t.denInt micros
  := by rw [toMicros_eq_clamp, microsOf_exact, wayBack, toTicks]

/-- Where nothing saturates, ticks survive the way to microseconds and back exactly if a tick is
no shorter than a microsecond, and microseconds the way to ticks and back exactly if it is no
longer. -/
theorem lossless_iff :
  ((∀ ticks, Saturating.Fits ticks → Saturating.Fits (t.microsOf .exact ticks) →
        t.toTicks .exact (t.toMicros .exact ticks) = ticks)
      ↔ t.denInt ≤ microsPerSecond * t.numInt)
    ∧ ((∀ micros, Saturating.Fits micros → Saturating.Fits (t.ticksOf .exact micros) →
        t.toMicros .exact (t.toTicks .exact micros) = micros)
      ↔ microsPerSecond * t.numInt ≤ t.denInt)
  := by
  simp only [toTicks_toMicros_eq, toMicros_toTicks_eq, microsOf_exact, ticksOf,
    mul_comm microsPerSecond]
  constructor
  · apply wayBack_eq_self_iff t.denInt_pos t.microsPerTick_pos t.fits_denInt t.fits_microsPerTick
  · apply wayBack_eq_self_iff t.microsPerTick_pos t.denInt_pos t.fits_microsPerTick t.fits_denInt

/-- The 90 kHz clock cannot tell the microseconds within a tick apart. -/
example : mpegTs.toMicros .exact (mpegTs.toTicks .exact 1) = 0
  := by decide

end Timebase

end MediaClock
