/-!
# Saturating arithmetic

A timestamp is an integer between `lowest` and `highest`, the range of a signed 64-bit
word.  A sum, difference or product of timestamps that leaves the range stops at the end
of the range it has passed: `clamp n` is the integer of the range closest to `n`.  An
integer that `Fits` the range is its own clamp, so an operation whose exact result fits
is exact.
-/

namespace MediaClock.Saturating

/-- The smallest timestamp. -/
def lowest : Int := -9223372036854775808

/-- The largest timestamp. -/
def highest : Int := 9223372036854775807

/-- Whether an integer lies in the range of timestamps. -/
def Fits (n : Int) : Prop := lowest ≤ n ∧ n ≤ highest

instance (n : Int) : Decidable (Fits n) := inferInstanceAs (Decidable (_ ∧ _))

/-- The integer of the range closest to `n`. -/
def clamp (n : Int) : Int :=
  if n < lowest then lowest else if highest < n then highest else n

/-- Sum, clamped. -/
def add (a b : Int) : Int := clamp (a + b)

/-- Difference, clamped. -/
def sub (a b : Int) : Int := clamp (a - b)

/-- Product, clamped. -/
def mul (a b : Int) : Int := clamp (a * b)

theorem clamp_of_fits {n : Int} (h : Fits n) :
  clamp n = n
  := by
  simp only [Fits, clamp, lowest, highest] at *
  omega

theorem fits_clamp (n : Int) :
  Fits (clamp n)
  := by
  simp only [Fits, clamp, lowest, highest]
  omega

theorem clamp_mono {m n : Int} (h : m ≤ n) :
  clamp m ≤ clamp n
  := by
  simp only [clamp, lowest, highest]
  omega

/-- What lies between zero and a timestamp is a timestamp. -/
theorem fits_of_bounds {n b : Int} (fits : Fits b) (bounds : 0 ≤ n ∧ n ≤ b) :
  Fits n
  := by
  simp only [Fits, lowest, highest] at *
  omega

/-- Clamping moves no integer beyond zero. -/
theorem clamp_bounds_of_nonneg {n : Int} (nonneg : 0 ≤ n) :
  0 ≤ clamp n ∧ clamp n ≤ n
  := by
  simp only [clamp, lowest, highest]
  omega

/-- Two timestamps that are moved on alike end up in one place if they are in one place, or if
both pass the largest timestamp. -/
theorem add_eq_add_iff {a b n : Int} (fitsA : Fits a) (fitsB : Fits b) (nonneg : 0 ≤ n) :
  add a n = add b n ↔ a = b ∨ highest ≤ a + n ∧ highest ≤ b + n
  := by
  simp only [Fits, add, clamp, lowest, highest] at *
  omega

end MediaClock.Saturating
