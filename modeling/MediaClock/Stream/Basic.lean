import MediaClock.Packet

/-!
# Streams and their applications

The descriptor of a stream, the phases of its life, the application that owns it, and the
ways in which an operation on it fails.
-/

namespace MediaClock

/-- A phase in the life of a stream. -/
inductive Phase where
  /-- Created, with nothing received yet. -/
  | idle
  | connected
  /-- The tracks are known. -/
  | described
  | playing
  /-- The session has ended. -/
  | stopped
  /-- The producer has failed. -/
  | error
  | terminated
deriving DecidableEq, Repr, Inhabited

namespace Phase

instance : Named Phase where
  values := [.idle, .connected, .described, .playing, .stopped, .error, .terminated]
  name
    | .idle => "idle"
    | .connected => "connected"
    | .described => "described"
    | .playing => "playing"
    | .stopped => "stopped"
    | .error => "error"
    | .terminated => "terminated"

/-- Whether a session is under way. -/
def isActive : Phase → Bool
  | .connected | .described | .playing => true
  | .idle | .stopped | .error | .terminated => false

end Phase

/-- What a stream is: its identity, its source and its tracks. -/
structure Descriptor where
  id : StreamId := default
  name : String := ""
  /-- The media sequence identifier of its packets. -/
  msid : UInt32 := 0
  source : SourceType := default
  tracks : TrackSet := ∅
  /-- Where the stream was requested from, if it is pulled. -/
  requestedUrl : Option String := none
  /-- Where the stream is pulled from after redirections. -/
  finalUrl : Option String := none
deriving DecidableEq, Inhabited

/-- An application, which takes in the packets of its streams or refuses them. -/
structure Application where
  name : String
  typeName : String
  /-- Whether the application takes a packet in. -/
  accepts : Packet → Bool

/-- The name and type name of the application of a stream that has none. -/
def Application.unknownName : String := "Unknown"

/-- Why an operation on a stream has failed. -/
inductive StreamError where
  | unknownTrack (id : TrackId)
  | invalidPacket (defect : PacketDefect)
  | missingDataTrack
  /-- The stream has no application. -/
  | detachedStream
  | rejectedTransition (current : Phase)
  /-- The application has refused the packet. -/
  | ingestRejected
deriving DecidableEq, Repr

namespace StreamError

/-- The kind of an error, from a finite vocabulary. -/
def kind : StreamError → String
  | .unknownTrack _ => "unknown_track"
  | .invalidPacket _ => "invalid_packet"
  | .missingDataTrack => "missing_data_track"
  | .detachedStream => "detached_stream"
  | .rejectedTransition _ => "rejected_transition"
  | .ingestRejected => "ingest_rejected"

/-- The wording of an error. -/
def message : StreamError → String
  | .unknownTrack id => s!"Unknown track: {id}"
  | .invalidPacket defect => "Invalid packet: " ++ defect.message
  | .missingDataTrack => "Stream has no data track"
  | .detachedStream => "Stream is detached from its application"
  | .rejectedTransition current =>
    "State transition rejected (current state: " ++ Named.name current ++ ")"
  | .ingestRejected => "Application rejected the packet"

end StreamError

end MediaClock
