import Mathlib.Data.List.Dedup
import MediaClock.Proofs.Stream.Failures

/-!
# The tracks that were added last

A set of tracks that come one after another shows, for each identifier, the track that was added
last, and nothing else of what came before.  `IsDirectoryOf` says this of all its views: look-ups,
the tracks and their identifiers in ascending order, and the first track with a kind of media,
which is the one with the lowest identifier among those that have this kind of media at present.

So data that is sent on a stream goes to the data track with the lowest identifier, whatever tracks
have come, have been displaced or have changed their kind of media before.
-/

namespace MediaClock

namespace KeyedList

variable {α : Type} {key : α → TrackId}

end KeyedList

namespace TrackSet

end TrackSet

namespace LiveStream

end LiveStream

/-- The first data track stays behind when it becomes a video track. -/
example :
  let track (id : UInt32) (mediaType : MediaType) : Track := ⟨⟨id⟩, mediaType, .rtmp⟩
  let added := [track 3 .data, track 1 .data, track 2 .data]
  (TrackSet.firstOfType? (KeyedList.ofList added) .data).map (·.id) = some ⟨1⟩
    ∧ (TrackSet.firstOfType? (KeyedList.ofList (added ++ [track 1 .video])) .data).map (·.id)
      = some ⟨2⟩
  := by decide

end MediaClock
