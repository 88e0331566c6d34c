import MediaClock.Codec
import MediaClock.Log.Render
import MediaClock.Replay.Basic

/-!
# Runs of a replay

A run applies the lines of a script one after another and notices, next to what the stream
notices, every line that fails.  It ends early at a line that is no text.
-/

namespace MediaClock.Replay

/-- Something noticed by a run. -/
inductive Notice where
  | stream (notice : LiveStream.Notice)
  /-- A line, by its number, has failed. -/
  | failed (line : Nat) (e : Error)

/-- A log event about the run of a script. -/
def runEvent (level : LogLevel) (message : String) (fields : List (String × FieldValue)) :
    LogEvent :=
  ⟨level, "provider.replay", message, fields⟩

/-- The packet as it is printed: an object with its keys in ascending order. -/
def packetLine (p : Packet) : String :=
  (Json.ofFields [
    ("bytes", .ofInt p.length),
    ("dts", .ofInt p.dts),
    ("format", encode p.format),
    ("media_type", encode p.mediaType),
    ("pts", .ofInt p.pts),
    ("stream", encode descriptor.name),
    ("track", encode p.track)]).text

namespace Notice

/-- The log event of a notice, if it has one. -/
def event? : Notice → Option LogEvent
  | .stream notice => notice.event?
  | .failed line e => some (runEvent .warn "Event failed"
      [("line", .int line), ("kind", .quoted e.kind), ("error", .shown e.message)])

/-- The increments of a notice. -/
def increments : Notice → List Increment
  | .stream notice => notice.increments .counters
  | .failed .. => []

/-- The line that is printed for a notice, if there is one. -/
def printed? : Notice → Option String
  | .stream notice => notice.packet?.map packetLine
  | .failed .. => none

end Notice

/-- The notices of one line. -/
def lineNotices (number : Nat) (step : Outcome) : List Notice :=
  step.notices.map .stream ++ match step.answer with
    | .ok () => []
    | .error e => [.failed number e]

/-- The lines of a script applied one after another, the first one with a given number.
The answer tells whether all of them are text. -/
def run (r : Replay) (number : Nat) : List (Option String) → Step Replay Notice Bool
  | [] => ⟨true, r, []⟩
  | none :: _ => ⟨false, r, []⟩
  | some line :: rest =>
    let step := r.applyLine line
    let later := step.state.run (number + 1) rest
    { later with notices := lineNotices number step ++ later.notices }

end MediaClock.Replay
