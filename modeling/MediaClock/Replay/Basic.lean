import MediaClock.Replay.Event
import MediaClock.Stream.Live
import MediaClock.Text.Blank

/-!
# Replays

A replay drives one stream by the events of a script.  Time goes by only when an event says
so.  An event that cannot be read or carried out is reported, and the replay goes on.
-/

namespace MediaClock

/-- A stream that is driven by a script, and the time since the beginning. -/
structure Replay where
  stream : LiveStream
  /-- In milliseconds. -/
  elapsed : Nat := 0

namespace Replay

/-- Why a line of a script has failed. -/
inductive Error where
  /-- The line is no event. -/
  | unreadable
  | zeroTimebase (e : ZeroComponent)
  | stream (e : StreamError)
deriving DecidableEq, Repr

namespace Error

/-- The kind of an error. -/
def kind : Error → String
  | .unreadable | .zeroTimebase _ => "invalid_event"
  | .stream e => e.kind

/-- The wording of an error; there is none for a line that is no event. -/
def message : Error → String
  | .unreadable => ""
  | .zeroTimebase e => e.message
  | .stream e => e.message

end Error

/-- The application of a replayed stream, which takes every packet in. -/
def application : Application where
  name := "replay"
  typeName := "Printing"
  accepts _ := true

/-- The descriptor of a replayed stream. -/
def descriptor : Descriptor where
  id := ⟨1⟩
  name := "replay"
  msid := 1
  source := .file

/-- A replay at its beginning. -/
def ofSettings (settings : Timeline.Settings) : Replay where
  stream := (LiveStream.ofDescriptor descriptor settings).attach application

/-- The present instant in nanoseconds. -/
def now (r : Replay) : Nat := r.elapsed * 1000000

/-- The usual format for a kind of media. -/
def usualFormat : MediaType → BitstreamFormat
  | .video => .h264AnnexB
  | .audio => .aacAdts
  | .data => .id3v2
  | .subtitle => .webvtt
  | .unknown => .unknown

/-- The kind of media of a track of the stream. -/
def mediaType (r : Replay) (track : TrackId) : MediaType :=
  match r.stream.tracks.find? track with
  | none => .unknown
  | some track => track.mediaType

/-- The packet of an event, from the clock values of its track. -/
def packet (r : Replay) (track : TrackId) (clock : Stamps) (cargo : Cargo) : Packet where
  msid := r.stream.descriptor.msid
  mediaType := r.mediaType track
  track := track
  payload := { zeros := cargo.size }
  pts := clock.pts
  dts := clock.dts
  format := cargo.format?.getD (usualFormat (r.mediaType track))
  type := if r.mediaType track = .video then .nalu else .raw

/-- What a step on a replay answers. -/
abbrev Outcome := Step Replay LiveStream.Notice (Except Error Unit)

/-- A step of the stream as one of the replay. -/
def ofStream {α : Type} (r : Replay) (step : Step LiveStream LiveStream.Notice (Except StreamError α)) :
    Step Replay LiveStream.Notice (Except Error α) :=
  (step.answering (·.mapError .stream)).within (fun stream => { r with stream }) id

/-- A packet dispatched after the clock values of its track are known. -/
def dispatch (track : TrackId) (cargo : Cargo)
    (step : Step Replay LiveStream.Notice (Except Error Stamps)) : Outcome :=
  step.next fun clock r =>
    match clock with
    | .error e => ⟨.error e, r, []⟩
    | .ok clock => r.ofStream (r.stream.send (r.packet track clock cargo) r.now)

/-- An event carried out. -/
def apply (r : Replay) : Event → Outcome
  | .track id mediaType num den =>
    match Timebase.ofFraction num den with
    | .error e => ⟨.error (.zeroTimebase e), r, []⟩
    | .ok timebase => ⟨.ok (), { r with stream := r.stream.addTrack ⟨id, mediaType, timebase⟩ }, []⟩
  | .start => r.ofStream ((r.stream.start r.now).answering .ok)
  | .stop => r.ofStream (r.stream.stop.answering .ok)
  | .base track raw modulus cargo =>
    dispatch track cargo (r.ofStream (r.stream.rebase track raw modulus))
  | .delta track raw modulus cargo =>
    dispatch track cargo
      ((r.ofStream (r.stream.advance track raw modulus)).answering (·.map fun clock => ⟨clock, clock⟩))
  | .sleep ms => ⟨.ok (), { r with elapsed := r.elapsed + ms }, []⟩

/-- A line of a script carried out.  Nothing happens on a blank line. -/
def applyLine (r : Replay) (line : String) : Outcome :=
  if Text.isBlank line then ⟨.ok (), r, []⟩
  else
    match Event.ofLine? line with
    | none => ⟨.error .unreadable, r, []⟩
    | some event => r.apply event

end Replay

end MediaClock
