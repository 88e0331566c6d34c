/-!
# Identifiers

A stream and a track within a stream are each identified by a 32-bit number.  Track
identifiers are ordered by their number.
-/

namespace MediaClock

/-- Identifier of a stream. -/
structure StreamId where
  val : UInt32
deriving DecidableEq, Repr, Inhabited

/-- Identifier of a track, unique within its stream. -/
structure TrackId where
  val : UInt32
deriving DecidableEq, Repr, Inhabited

instance : ToString StreamId := ⟨fun id => toString id.val⟩

instance : ToString TrackId := ⟨fun id => toString id.val⟩

namespace TrackId

instance : LT TrackId := ⟨fun a b => a.val < b.val⟩

instance (a b : TrackId) : Decidable (a < b) := inferInstanceAs (Decidable (a.val < b.val))

theorem lt_irrefl (a : TrackId) :
  ¬ a < a
  := UInt32.lt_irrefl a.val

theorem lt_trans {a b c : TrackId} (hab : a < b) (hbc : b < c) :
  a < c
  := UInt32.lt_trans hab hbc

theorem ne_of_lt {a b : TrackId} (h : a < b) :
  a ≠ b
  := fun same => lt_irrefl b (same ▸ h)

/-- Of two different identifiers one comes first. -/
theorem lt_of_not_lt {a b : TrackId} (h : ¬ a < b) (ne : a ≠ b) :
  b < a
  := by
  rcases UInt32.lt_or_lt_of_ne (fun same : a.val = b.val => ne (congrArg mk same)) with lt | gt
  · exact absurd lt h
  · exact gt

end TrackId

end MediaClock
