import MediaClock.Saturating
import MediaClock.Timeline.Field
import MediaClock.Track

/-!
# Unwrapping a counter

The raw values of a timestamp field come from a counter that wraps at a modulus.
`Turn.between` compares a raw value with an earlier one, its origin: a step down by more
than half of the modulus is a forward turn of the counter, and a step up by more than half
of it is a reverse turn, a value from before the last forward turn that comes late.  An
`Unwrapper` keeps, for each track, the number of forward turns and the origin.  A late
value counts one turn less, and leaves both number and origin as they are.
-/

namespace MediaClock

/-- How a raw value stands to its origin. -/
inductive Turn where
  /-- Within the same period of the counter. -/
  | level
  /-- In the next period. -/
  | forward
  /-- In the period before. -/
  | reverse
deriving DecidableEq, Repr

namespace Turn

/-- How a raw value stands to its origin, under a modulus; a value without an origin is
level. -/
def between (modulus : Int) (origin? : Option Int) (raw : Int) : Turn :=
  match origin? with
  | none => .level
  | some origin =>
    if modulus.tdiv 2 < Saturating.sub origin raw then .forward
    else if modulus.tdiv 2 < Saturating.sub raw origin then .reverse
    else .level

/-- The turn of a counter that never runs back: a step up is no turn, however large. -/
def onward : Turn → Turn
  | .forward => .forward
  | .reverse => .level
  | .level => .level

/-- The direction of a turn. -/
def direction? : Turn → Option Direction
  | .level => none
  | .forward => some .forward
  | .reverse => some .reverse

end Turn

/-- For each track, the forward turns of a counter and the origin of its next turn. -/
structure Unwrapper where
  /-- Forward turns so far; none are recorded as no entry. -/
  counts : TrackMap Nat := ∅
  /-- The raw value with which the next one is compared. -/
  origins : TrackMap Int := ∅
deriving DecidableEq, Inhabited

namespace Unwrapper

/-- The number of forward turns of a track. -/
def count (u : Unwrapper) (id : TrackId) : Nat := (u.counts.get? id).getD 0

/-- How a raw value of a track stands to the track's origin. -/
def turn (u : Unwrapper) (modulus : Int) (id : TrackId) (raw : Int) : Turn :=
  Turn.between modulus (u.origins.get? id) raw

/-- The number of periods by which a raw value with a given turn is moved. -/
def periods (u : Unwrapper) (id : TrackId) : Turn → Nat
  | .level => u.count id
  | .forward => u.count id + 1
  | .reverse => u.count id - 1

/-- The unwrapper after a raw value with a given turn. -/
def record (u : Unwrapper) (id : TrackId) (raw : Int) : Turn → Unwrapper
  | .level => { u with origins := u.origins.set id raw }
  | .forward => ⟨u.counts.set id (u.count id + 1), u.origins.set id raw⟩
  | .reverse => u

end Unwrapper

end MediaClock
