import MediaClock.Stream.Notice

/-!
# Live streams

A live stream joins a descriptor, a phase and a timeline, and belongs to an application as
long as that is alive.  `start` bridges the outage since the last packet, `stop` closes the
epoch of the timeline and is the only way to the stopped phase, and `send` hands a packet
to the application.  Instants are nanoseconds on a clock that is free to run backwards; an
outage that ends before it begins has no length.
-/

namespace MediaClock

/-- A stream with its life, its clocks and its application. -/
structure LiveStream where
  descriptor : Descriptor := {}
  /-- The application of the stream, as long as it is attached and alive. -/
  application? : Option Application := none
  phase : Phase := .idle
  timeline : Timeline := {}
  /-- The instant of the last packet. -/
  lastPacket? : Option Nat := none

namespace LiveStream

/-- A new stream. -/
def ofDescriptor (descriptor : Descriptor) (settings : Timeline.Settings) : LiveStream :=
  { descriptor, timeline := { settings } }

/-! ### Descriptor and application -/

/-- The tracks of the stream. -/
def tracks (s : LiveStream) : TrackSet := s.descriptor.tracks

/-- The stream with another set of tracks. -/
def withTracks (s : LiveStream) (tracks : TrackSet) : LiveStream :=
  { s with descriptor := { s.descriptor with tracks } }

/-- The stream with a track added, in place of the one with the same identifier. -/
def addTrack (s : LiveStream) (track : Track) : LiveStream :=
  s.withTracks (TrackSet.add s.tracks track).2

/-- The stream requested from a given place. -/
def setRequestedUrl (s : LiveStream) (url : Option String) : LiveStream :=
  { s with descriptor := { s.descriptor with requestedUrl := url } }

/-- The stream pulled from a given place. -/
def setFinalUrl (s : LiveStream) (url : Option String) : LiveStream :=
  { s with descriptor := { s.descriptor with finalUrl := url } }

/-- The stream owned by an application, and no longer by the one that owned it. -/
def attach (s : LiveStream) (application : Application) : LiveStream :=
  { s with application? := some application }

/-- The stream after its application is gone. -/
def detach (s : LiveStream) : LiveStream := { s with application? := none }

/-- The stream with what its application takes in changed. -/
def setAcceptance (s : LiveStream) (accepts : Packet → Bool) : LiveStream :=
  { s with application? := s.application?.map ({ · with accepts }) }

/-- The name of the application. -/
def applicationName (s : LiveStream) : String :=
  (s.application?.map (·.name)).getD Application.unknownName

/-- The type name of the application. -/
def applicationTypeName (s : LiveStream) : String :=
  (s.application?.map (·.typeName)).getD Application.unknownName

/-- The names of the stream in the log. -/
def identity (s : LiveStream) : Identity :=
  ⟨s.applicationName, s.descriptor.name, s.descriptor.id⟩

/-! ### Life -/

/-- The stream moved to a phase other than the stopped one. -/
def setPhase (s : LiveStream) (next : Phase) : Step LiveStream Notice (Except StreamError Unit) :=
  if next = .stopped then ⟨.error (.rejectedTransition s.phase), s, []⟩
  else
    ⟨.ok (), { s with phase := next },
      if s.phase = .terminated then [.revived s.descriptor.id s.descriptor.name next] else []⟩

/-- The length of the outage from one instant to another, in microseconds. -/
def outageMicros (last now : Nat) : Int := min (((now - last) / 1000 : Nat) : Int) Saturating.highest

/-- The start of a session.  The time since the last packet is added to every base, so
that the session goes on after it. -/
def start (s : LiveStream) (now : Nat) : Step LiveStream Notice Unit :=
  match s.lastPacket? with
  | none => ⟨(), s, [.started s.identity]⟩
  | some last =>
    ⟨(), { s with timeline := s.timeline.bridge s.tracks (outageMicros last now) },
      [.started s.identity, .bridged s.descriptor.id (now - last)]⟩

/-- The end of a session, which closes the epoch; nothing happens to a stopped stream. -/
def stop (s : LiveStream) : Step LiveStream Notice Unit :=
  if s.phase = .stopped then ⟨(), s, []⟩
  else
    let closed := s.timeline.close s.tracks
    ⟨(), { s with phase := .stopped, timeline := closed.state },
      .stopped s.identity :: closed.notices.map .timeline
        ++ [.epochClosed s.descriptor.id closed.answer]⟩

/-- The end of the stream. -/
def terminate (s : LiveStream) : Step LiveStream Notice Unit :=
  ⟨(), { s with phase := .terminated }, [.terminated s.identity]⟩

/-! ### Timestamps -/

/-- The track with an identifier. -/
def track (s : LiveStream) (id : TrackId) : Except StreamError Track :=
  match s.tracks.find? id with
  | none => .error (.unknownTrack id)
  | some track => .ok track

/-- An operation of the timeline on a track of the stream, if there is such a track. -/
def onTrack {α : Type} (s : LiveStream) (id : TrackId)
    (operation : Timeline → Track → Step Timeline Timeline.Notice α) :
    Step LiveStream Notice (Except StreamError α) :=
  match s.track id with
  | .error e => ⟨.error e, s, []⟩
  | .ok track =>
    ((operation s.timeline track).answering .ok).within
      (fun timeline => { s with timeline }) .timeline

/-- The clock values of a packet, by rebasing its raw timestamps. -/
def rebase (s : LiveStream) (id : TrackId) (raw : Stamps) (modulus : Int) :
    Step LiveStream Notice (Except StreamError Stamps) :=
  s.onTrack id fun timeline track => timeline.rebase track raw modulus

/-- The running clock of a track, moved on by the increment of a raw value. -/
def advance (s : LiveStream) (id : TrackId) (raw modulus : Int) :
    Step LiveStream Notice (Except StreamError Int) :=
  s.onTrack id fun timeline _ => timeline.advance id raw modulus

/-- The increment of a raw value of a track. -/
def increment (s : LiveStream) (id : TrackId) (raw modulus : Int) :
    Step LiveStream Notice (Except StreamError Int) :=
  s.onTrack id fun timeline _ => timeline.increment id raw modulus

/-- The base of a track in the timebase of the track. -/
def baseTicks (s : LiveStream) (id : TrackId) : Except StreamError Int :=
  (s.track id).map s.timeline.baseTicks

/-! ### Dispatch -/

/-- A packet handed to the application at an instant.  A packet that the application
refuses has come in all the same. -/
def send (s : LiveStream) (packet : Packet) (now : Nat) :
    Step LiveStream Notice (Except StreamError Unit) :=
  match s.application? with
  | none => ⟨.error .detachedStream, s, []⟩
  | some application =>
    match packet.defect? with
    | some defect =>
      ⟨.error (.invalidPacket defect), s, [.rejected s.identity packet.track defect]⟩
    | none =>
      ⟨if application.accepts packet then .ok () else .error .ingestRejected,
        { s with lastPacket? := some now },
        [.ingress s.descriptor.id s.descriptor.source packet.length,
          .delivered application packet]⟩

/-- A packet of data with one timestamp, for a track. -/
def dataPacket (s : LiveStream) (track : Track) (timestamp : Int) (format : BitstreamFormat)
    (type : PacketType) (payload : Payload) : Packet where
  msid := s.descriptor.msid
  mediaType := .data
  track := track.id
  payload := payload
  pts := timestamp
  dts := timestamp
  format := format
  type := type

/-- A payload sent on the first data track of the stream. -/
def sendData (s : LiveStream) (timestamp : Int) (format : BitstreamFormat) (type : PacketType)
    (payload : Payload) (now : Nat) : Step LiveStream Notice (Except StreamError Unit) :=
  match TrackSet.firstOfType? s.tracks .data with
  | none => ⟨.error .missingDataTrack, s, [.noDataTrack s.identity]⟩
  | some track => s.send (s.dataPacket track timestamp format type payload) now

end LiveStream

end MediaClock
