import MediaClock.Counter
import MediaClock.Log
import MediaClock.Track

/-!
# Notices of a timeline

What a timeline notices while it turns raw timestamps into clocks.  Every notice has its
log event, and a turn or a backward step of a counter has its increment as well.
-/

namespace MediaClock.Timeline

/-- Something noticed by a timeline. -/
inductive Notice where
  /-- The decode timestamp of a track has become the start of the epoch. -/
  | epochStarted (track : Track) (dts start : Int)
  /-- The counter of a field has turned between the last raw value and this one. -/
  | turned (field : Field) (direction : Direction) (track : TrackId) (last raw : Int)
  /-- A raw value has no one before it to be compared with. -/
  | firstRaw (track : TrackId) (raw : Int)
  /-- A raw value lies below the last one. -/
  | steppedBack (kind : Discontinuity) (track : TrackId) (last raw : Int)
  /-- The base of a track has been moved to the anchor of a closed epoch. -/
  | anchored (track : TrackId) (previous base : Int)
deriving DecidableEq, Repr

/-- The log message for a turn of a field's counter. -/
def turnMessage (field : Field) (direction : Direction) : String :=
  let acronym := match field with
    | .pts => "PTS"
    | .dts => "DTS"
  match direction with
  | .forward => acronym ++ " wraparound detected"
  | .reverse => acronym ++ " reverse wraparound detected"

namespace Notice

/-- The log event of a notice. -/
def event : Notice → LogEvent
  | .epochStarted track dts start => {
      level := .debug
      target := "provider.timestamp"
      message := "Captured start timestamp of epoch"
      fields := [("track_id", .shown (toString track.id)), ("dts", .int dts),
        ("timebase", .shown track.timebase.text), ("start_us", .int start)] }
  | .turned field direction track last raw => {
      level := .warn
      target := "provider.timestamp"
      message := turnMessage field direction
      fields := [("track_id", .shown (toString track)), ("last_" ++ name field, .int last),
        (name field, .int raw)] }
  | .firstRaw track raw => {
      level := .debug
      target := "provider.timestamp"
      message := "First timestamp of track"
      fields := [("track_id", .shown (toString track)), ("timestamp", .int raw)] }
  | .steppedBack kind track last raw => {
      level := .debug
      target := "provider.timestamp"
      message := match kind with
        | .wraparound => "Wrapped around"
        | .sourceRestart => "Source changed"
      fields := [("track_id", .shown (toString track)), ("last", .int last),
        ("timestamp", .int raw)] }
  | .anchored track previous base => {
      level := .debug
      target := "provider.timestamp"
      message := "Updated base timestamp"
      fields := [("track_id", .shown (toString track)), ("previous", .int previous),
        ("base", .int base)] }

/-- The increment of a notice, if it is counted. -/
def increment? : Notice → Option Increment
  | .turned field direction _ _ _ => some { counter := .wraparounds field direction }
  | .steppedBack kind _ _ _ => some { counter := .deltaDiscontinuities kind }
  | .epochStarted .. | .firstRaw .. | .anchored .. => none

end Notice

end MediaClock.Timeline
