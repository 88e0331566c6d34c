import Mathlib.Data.Rat.Floor
import MediaClock.Proofs.Conversion

/-!
# Exact conversion in wide words

An exact conversion is the rational number that it stands for, rounded to the `nearest` integer
and clamped.  It goes through a product that a timestamp has no room for, so it is computed in
signed words of 128 bits.  The operations of `Wide` on such words have no result where the
integer that they stand for is not such a word, and a quotient by zero has none either.
Computed with them, every conversion has a result, and it is the exact one: no intermediate
overflows.
-/

namespace MediaClock

/-! ### The nearest integer -/

/-- The integer nearest to a rational number; of two that are equally near, the one that is
further from zero. -/
def nearest (x : ℚ) : Int := if 0 ≤ x then ⌊x + 1 / 2⌋ else ⌈x - 1 / 2⌉

example : nearest (5 / 2) = 3 ∧ nearest (7 / 3) = 2 ∧ nearest (-5 / 2) = -3
  := by decide +kernel

/-- A rounded quotient is the nearest integer. -/
theorem roundDiv_eq_nearest (numer : Int) {den : Int} (pos : 0 < den) :
  roundDiv numer den = nearest (numer / den)
  := by
  have pos' : (0 : ℚ) < den := by exact_mod_cast pos
  have off : 2 * (roundDiv numer den - numer / den : ℚ)
      = (2 * (roundDiv numer den * den - numer) : Int) / den := by
    push_cast
    field_simp
  symm
  rw [nearest]
  -- The floor leaves a tie above zero to the upper integer, the ceiling one below zero to the
  -- lower integer.
  obtain nonneg | neg := le_or_gt 0 numer
  · obtain ⟨below, above⟩ := roundDiv_bounds_of_nonneg nonneg pos
    have below' : -1 < 2 * (roundDiv numer den - numer / den : ℚ) := by
      rw [off, lt_div_iff₀ pos', neg_one_mul]
      exact_mod_cast below
    have above' : 2 * (roundDiv numer den - numer / den : ℚ) ≤ 1 := by
      rw [off, div_le_one pos']
      exact_mod_cast above
    rw [if_pos (div_nonneg (by exact_mod_cast nonneg) pos'.le), Int.floor_eq_iff]
    constructor <;> linarith
  · obtain ⟨below, above⟩ := roundDiv_bounds_of_nonpos neg.le pos
    have below' : -1 ≤ 2 * (roundDiv numer den - numer / den : ℚ) := by
      rw [off, le_div_iff₀ pos', neg_one_mul]
      exact_mod_cast below
    have above' : 2 * (roundDiv numer den - numer / den : ℚ) < 1 := by
      rw [off, div_lt_one pos']
      exact_mod_cast above
    rw [if_neg (not_le.mpr (div_neg_of_neg_of_pos (by exact_mod_cast neg) pos')),
      Int.ceil_eq_iff]
    constructor <;> linarith

/-! ### Wide words -/

namespace Wide

/-- The smallest signed word of 128 bits. -/
def lowest : Int := -170141183460469231731687303715884105728

/-- The largest signed word of 128 bits. -/
def highest : Int := 170141183460469231731687303715884105727

/-- Whether an integer is a signed word of 128 bits. -/
def Fits (n : Int) : Prop := lowest ≤ n ∧ n ≤ highest

instance (n : Int) : Decidable (Fits n) := inferInstanceAs (Decidable (_ ∧ _))

/-- An integer as a word, if it is one. -/
def ofInt? (n : Int) : Option Int := if Fits n then some n else none

/-- The sum of two words. -/
def add? (a b : Int) : Option Int := ofInt? (a + b)

/-- The product of two words. -/
def mul? (a b : Int) : Option Int := ofInt? (a * b)

/-- The quotient of two words, truncated. -/
def div? (a b : Int) : Option Int := if b = 0 then none else ofInt? (a.tdiv b)

/-- The remainder of two words, which has the sign of the first one. -/
def mod? (a b : Int) : Option Int := if b = 0 then none else ofInt? (a.tmod b)

/-- The absolute value of a word. -/
def abs? (a : Int) : Option Int := ofInt? a.natAbs

/-- The quotient of two words, rounded to the nearest integer with ties away from zero. -/
def roundDiv? (numer den : Int) : Option Int := do
  let quotient ← div? numer den
  let remainder ← mod? numer den
  let size ← abs? remainder
  let double ← mul? size 2
  if den ≤ double then add? quotient numer.sign else pure quotient

/-- The number of microseconds that some ticks last. -/
def toMicros? (t : Timebase) (ticks : Int) : Option Int := do
  let seconds ← mul? ticks t.numInt
  let numer ← mul? seconds microsPerSecond
  let micros ← roundDiv? numer t.denInt
  return Saturating.clamp micros

/-- The number of ticks in some microseconds. -/
def toTicks? (t : Timebase) (micros : Int) : Option Int := do
  let numer ← mul? micros t.denInt
  let den ← mul? t.numInt microsPerSecond
  let ticks ← roundDiv? numer den
  return Saturating.clamp ticks

theorem ofInt?_of_natAbs_le {n : Int} (le : n.natAbs ≤ highest) :
  ofInt? n = some n
  := by
  apply if_pos
  simp only [Fits, lowest, highest] at *
  omega

/-! ### Rounding -/

/-- A rounded quotient does not overflow if there is a bit to spare. -/
theorem roundDiv?_eq {numer den : Int} (room : 2 * numer.natAbs < highest) (pos : 0 < den)
    (roomDen : 2 * den < highest) :
  roundDiv? numer den = some (roundDiv numer den)
  := by
  have quotientLe : (numer.tdiv den).natAbs ≤ numer.natAbs := by
    rw [Int.natAbs_tdiv]
    apply Nat.div_le_self
  have remainderLt : (numer.tmod den).natAbs < den.natAbs := by
    rw [Int.natAbs_tmod]
    apply Nat.mod_lt
    omega
  have quotient : div? numer den = some (numer.tdiv den) := by
    rw [div?, if_neg pos.ne', ofInt?_of_natAbs_le (by omega)]
  have remainder : mod? numer den = some (numer.tmod den) := by
    rw [mod?, if_neg pos.ne', ofInt?_of_natAbs_le (by omega)]
  have size : abs? (numer.tmod den) = some ((numer.tmod den).natAbs : Int) :=
    ofInt?_of_natAbs_le (by omega)
  have double : mul? (numer.tmod den).natAbs 2 = some ((numer.tmod den).natAbs * 2 : Int) :=
    ofInt?_of_natAbs_le (by omega)
  have adjusted : add? (numer.tdiv den) numer.sign = some (numer.tdiv den + numer.sign) := by
    apply ofInt?_of_natAbs_le
    have := Int.sign_trichotomy numer
    omega
  rw [roundDiv, mul_comm 2]
  simp only [roundDiv?, quotient, remainder, size, double, adjusted, Option.bind_eq_bind,
    Option.bind_some, Option.pure_def]
  split <;> rfl

/-! ### Conversions -/

/-- A product does not overflow if the bounds of its factors leave room for it. -/
theorem mul?_of_le {a b : Int} {m n : ℕ} (left : a.natAbs ≤ m) (right : b.natAbs ≤ n)
    (room : (m * n : ℕ) ≤ highest) :
  mul? a b = some (a * b) ∧ (a * b).natAbs ≤ m * n
  := by
  have le : (a * b).natAbs ≤ m * n := by
    rw [Int.natAbs_mul]
    apply Nat.mul_le_mul left right
  constructor
  · apply ofInt?_of_natAbs_le
    omega
  · apply le

theorem natAbs_le_of_fits {v : Int} (fits : Saturating.Fits v) :
  v.natAbs ≤ 9223372036854775808
  := by
  simp only [Saturating.Fits, Saturating.lowest, Saturating.highest] at fits
  omega

section Timebase

variable (t : Timebase) {v : Int}

theorem natAbs_numInt_le :
  t.numInt.natAbs ≤ 4294967295
  := by
  have := t.numInt_pos
  have := t.numInt_lt
  omega

theorem natAbs_denInt_le :
  t.denInt.natAbs ≤ 4294967295
  := by
  have := t.denInt_pos
  have := t.denInt_lt
  omega

/-- Turning ticks into microseconds does not overflow. -/
theorem toMicros?_eq (fits : Saturating.Fits v) :
  toMicros? t v = some (t.toMicros .exact v)
  := by
  obtain ⟨seconds, secondsLe⟩ :=
    mul?_of_le (natAbs_le_of_fits fits) (natAbs_numInt_le t) (by decide)
  obtain ⟨numer, numerLe⟩ :=
    mul?_of_le secondsLe (n := 1000000) (b := microsPerSecond) (by decide) (by decide)
  have denLe := natAbs_denInt_le t
  have micros : roundDiv? (v * t.numInt * microsPerSecond) t.denInt
      = some (roundDiv (v * t.numInt * microsPerSecond) t.denInt) := by
    apply roundDiv?_eq _ t.denInt_pos
    · rw [highest]
      omega
    · rw [highest]
      omega
  rw [toMicros?, Option.bind_eq_bind, seconds, Option.bind_some, numer, Option.bind_some, micros,
    Option.bind_some, Option.pure_def, Timebase.toMicros]

/-- Turning microseconds into ticks does not overflow. -/
theorem toTicks?_eq (fits : Saturating.Fits v) :
  toTicks? t v = some (t.toTicks .exact v)
  := by
  obtain ⟨numer, numerLe⟩ :=
    mul?_of_le (natAbs_le_of_fits fits) (natAbs_denInt_le t) (by decide)
  obtain ⟨den, denLe⟩ :=
    mul?_of_le (natAbs_numInt_le t) (n := 1000000) (b := microsPerSecond) (by decide) (by decide)
  have ticks : roundDiv? (v * t.denInt) (t.numInt * microsPerSecond)
      = some (roundDiv (v * t.denInt) (t.numInt * microsPerSecond)) := by
    apply roundDiv?_eq _ t.microsPerTick_pos
    · rw [highest]
      omega
    · rw [highest]
      omega
  rw [toTicks?, Option.bind_eq_bind, numer, Option.bind_some, den, Option.bind_some, ticks,
    Option.bind_some, Option.pure_def, Timebase.toTicks]

end Timebase

end Wide

/-- An exact conversion is the rational number that it stands for, rounded to the nearest integer
with ties away from zero and clamped, and it is computed in wide words without overflow. -/
theorem exact_conversion (t : Timebase) {v : Int} (fits : Saturating.Fits v) :
  t.toMicros .exact v
      = Saturating.clamp (nearest ((v : ℚ) * t.numInt * microsPerSecond / t.denInt))
    ∧ t.toTicks .exact v
      = Saturating.clamp (nearest ((v : ℚ) * t.denInt / (t.numInt * microsPerSecond)))
    ∧ Wide.toMicros? t v = some (t.toMicros .exact v)
    ∧ Wide.toTicks? t v = some (t.toTicks .exact v)
  := by
  constructor
  · rw [Timebase.toMicros, roundDiv_eq_nearest _ t.denInt_pos]
    push_cast
    rfl
  constructor
  · rw [Timebase.toTicks, roundDiv_eq_nearest _ t.microsPerTick_pos]
    push_cast
    rfl
  constructor
  · apply Wide.toMicros?_eq t fits
  · apply Wide.toTicks?_eq t fits

/-- Minus one microsecond is a tie between no tick of two microseconds and one before zero. -/
theorem exact_conversion_tie :
  let t : Timebase := { num := 1, den := 500000 }
  Saturating.Fits (-1)
    ∧ t.toTicks .exact (-1)
      = Saturating.clamp (nearest ((-1 : Int) * t.denInt / (t.numInt * microsPerSecond)))
    ∧ Wide.toTicks? t (-1) = some (-1)
  := by
  intro t
  have fits : Saturating.Fits (-1) := by decide
  have value : t.toTicks .exact (-1) = -1 := by decide
  obtain ⟨-, rounded, -, computed⟩ := exact_conversion t fits
  rw [value] at computed
  exact ⟨fits, rounded, computed⟩

end MediaClock
