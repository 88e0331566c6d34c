import MediaClock.Named

/-!
# Timestamp fields

A packet has a presentation timestamp and a decode timestamp.  Both come from counters
that wrap, so a raw value can turn over forward, or back again, and a raw value below the
one before it is either a wraparound or a restart of its source.
-/

namespace MediaClock

/-- A timestamp of a packet. -/
inductive Field where
  /-- The presentation timestamp. -/
  | pts
  /-- The decode timestamp. -/
  | dts
deriving DecidableEq, Repr

instance : Named Field where
  values := [.pts, .dts]
  name
    | .pts => "pts"
    | .dts => "dts"

/-- A value for each field. -/
structure PerField (α : Type) where
  pts : α
  dts : α
deriving DecidableEq, Repr, Inhabited

/-- The value for one field. -/
def PerField.get {α : Type} (p : PerField α) : Field → α
  | .pts => p.pts
  | .dts => p.dts

/-- The two timestamps of a packet. -/
abbrev Stamps := PerField Int

/-- Which way a counter has turned over. -/
inductive Direction where
  | forward
  | reverse
deriving DecidableEq, Repr

instance : Named Direction where
  values := [.forward, .reverse]
  name
    | .forward => "forward"
    | .reverse => "reverse"

/-- What a raw value that lies below the one before it is taken for. -/
inductive Discontinuity where
  /-- The counter has wrapped. -/
  | wraparound
  /-- The source has started again. -/
  | sourceRestart
deriving DecidableEq, Repr

instance : Named Discontinuity where
  values := [.wraparound, .sourceRestart]
  name
    | .wraparound => "wraparound"
    | .sourceRestart => "source_restart"

end MediaClock
