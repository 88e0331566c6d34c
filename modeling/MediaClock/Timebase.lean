import MediaClock.Named
import MediaClock.Saturating

/-!
# Timebases

A timebase is a fraction `num / den` with components other than zero: one tick of it lasts
`num / den` seconds.  The fraction is kept as written and never reduced.  `toMicros` turns
ticks into microseconds and `toTicks` turns microseconds into ticks, either exactly, with
the quotient rounded to the nearest integer and ties away from zero, or through floating
point factors, with the product truncated.
-/

namespace MediaClock

/-- How ticks and microseconds are converted into each other. -/
inductive Conversion where
  /-- By a floating point factor, truncated toward zero. -/
  | float
  /-- By a product and a quotient of integers, rounded to nearest. -/
  | exact
deriving DecidableEq, Repr

/-- Exact conversion is the default. -/
instance : Inhabited Conversion := ⟨.exact⟩

instance : Named Conversion where
  values := [.float, .exact]
  name
    | .float => "float"
    | .exact => "exact"

/-- The quotient of `numer` by a positive `den`, rounded to the nearest integer; a tie is
rounded away from zero. -/
def roundDiv (numer den : Int) : Int :=
  if den ≤ 2 * (numer.tmod den).natAbs then numer.tdiv den + numer.sign else numer.tdiv den

/-- The integer part of a floating point number, which is at most the largest 64-bit word in
absolute value.  What is not a number has the integer part zero. -/
def integerPart (x : Float) : Int :=
  if x < 0.0 then -((-x).toUInt64.toNat : Int) else x.toUInt64.toNat

/-- The number of microseconds in a second. -/
def microsPerSecond : Int := 1000000

/-- A tick duration of `num / den` seconds. -/
structure Timebase where
  /-- The seconds side of the fraction. -/
  num : UInt32
  /-- The ticks side of the fraction. -/
  den : UInt32
  num_ne_zero : num ≠ 0 := by decide
  den_ne_zero : den ≠ 0 := by decide
deriving DecidableEq, Repr

/-- A fraction refused as a timebase because one of its components is zero. -/
structure ZeroComponent where
  num : UInt32
  den : UInt32
deriving DecidableEq, Repr

/-- The wording of the refusal. -/
def ZeroComponent.message (e : ZeroComponent) : String :=
  s!"Timebase component must be non-zero: {e.num}/{e.den}"

namespace Timebase

/-- The 90 kHz clock of transport streams and of video over RTP. -/
def mpegTs : Timebase where
  num := 1
  den := 90000

/-- The millisecond clock of RTMP. -/
def rtmp : Timebase where
  num := 1
  den := 1000

/-- The timebase `num / den`, unless a component is zero. -/
def ofFraction (num den : UInt32) : Except ZeroComponent Timebase :=
  if h : num ≠ 0 ∧ den ≠ 0 then .ok ⟨num, den, h.1, h.2⟩ else .error ⟨num, den⟩

/-- The fraction as text. -/
def text (t : Timebase) : String := s!"{t.num}/{t.den}"

/-- Seconds per tick in floating point. -/
def secondsPerTick (t : Timebase) : Float := t.num.toFloat / t.den.toFloat

/-- Ticks per second in floating point. -/
def ticksPerSecond (t : Timebase) : Float := t.den.toFloat / t.num.toFloat

/-- The numerator as an integer. -/
def numInt (t : Timebase) : Int := t.num.toNat

/-- The denominator as an integer. -/
def denInt (t : Timebase) : Int := t.den.toNat

/-- A timestamp times a floating point factor, truncated toward zero and clamped. -/
def scale (value : Int) (factor : Float) : Int :=
  Saturating.clamp (integerPart (Float.ofInt value * factor))

/-- The number of microseconds that `ticks` ticks last. -/
def toMicros (t : Timebase) (mode : Conversion) (ticks : Int) : Int :=
  match mode with
  | .float => scale ticks (t.secondsPerTick * 1000000.0)
  | .exact => Saturating.clamp (roundDiv (ticks * t.numInt * microsPerSecond) t.denInt)

/-- The number of ticks in `micros` microseconds. -/
def toTicks (t : Timebase) (mode : Conversion) (micros : Int) : Int :=
  match mode with
  | .float => scale micros (t.ticksPerSecond / 1000000.0)
  | .exact => Saturating.clamp (roundDiv (micros * t.denInt) (t.numInt * microsPerSecond))

theorem numInt_pos (t : Timebase) :
  0 < t.numInt
  := by
  have ne : t.num.toNat ≠ 0 := fun zero => t.num_ne_zero (UInt32.toNat_inj.mp zero)
  simp only [numInt]
  omega

theorem denInt_pos (t : Timebase) :
  0 < t.denInt
  := by
  have ne : t.den.toNat ≠ 0 := fun zero => t.den_ne_zero (UInt32.toNat_inj.mp zero)
  simp only [denInt]
  omega

end Timebase

end MediaClock
