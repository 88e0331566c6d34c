import MediaClock.Stream.Basic
import MediaClock.Timeline.Basic

/-!
# Notices of a stream

What a stream notices over its life: phases, bridged outages, closed epochs, what its
timeline notices, packets that are refused, and packets that are handed to its
application.  Ingress is noticed apart from delivery, and is either counted or kept as a
journal of streams and octets, as its sink asks for.
-/

namespace MediaClock.LiveStream

/-- The names by which a stream is known in the log. -/
structure Identity where
  application : String
  stream : String
  id : StreamId
deriving DecidableEq, Repr

/-- Something noticed by a stream. -/
inductive Notice where
  | started (who : Identity)
  | stopped (who : Identity)
  | terminated (who : Identity)
  /-- An outage of some nanoseconds is added to the bases. -/
  | bridged (id : StreamId) (gap : Nat)
  /-- The epoch is closed at an anchor. -/
  | epochClosed (id : StreamId) (anchor : Option Int)
  /-- A terminated stream is moved to another phase. -/
  | revived (id : StreamId) (stream : String) (next : Phase)
  | timeline (notice : Timeline.Notice)
  /-- A defective packet is refused. -/
  | rejected (who : Identity) (track : TrackId) (defect : PacketDefect)
  /-- There is no track for data. -/
  | noDataTrack (who : Identity)
  /-- Some octets have come in on a stream. -/
  | ingress (id : StreamId) (source : SourceType) (octets : Nat)
  /-- A packet is handed to an application. -/
  | delivered (application : Application) (packet : Packet)

/-- Where ingress is reported to. -/
inductive IngressSink where
  /-- A list of stream identifiers and octets. -/
  | journal
  /-- Counters by source. -/
  | counters
deriving DecidableEq, Repr

/-- The fields of an identity in the log. -/
def Identity.fields (who : Identity) : List (String × FieldValue) :=
  [("app", .shown who.application), ("stream", .shown who.stream),
    ("stream_id", .shown (toString who.id))]

/-- A log event about the life of a stream. -/
def lifeEvent (level : LogLevel) (message : String) (fields : List (String × FieldValue)) :
    LogEvent :=
  ⟨level, "provider.stream", message, fields⟩

/-- A log event about a packet that is not dispatched. -/
def dispatchEvent (message : String) (fields : List (String × FieldValue)) : LogEvent :=
  ⟨.error, "provider.dispatch", message, fields⟩

/-- An anchor as text. -/
def anchorText : Option Int → String
  | none => "None"
  | some anchor => s!"Some({anchor})"

namespace Notice

/-- The log event of a notice, if it has one. -/
def event? : Notice → Option LogEvent
  | .started who => some (lifeEvent .info "Stream has been started" who.fields)
  | .stopped who => some (lifeEvent .info "Stream has been stopped" who.fields)
  | .terminated who => some (lifeEvent .info "Stream has been terminated" who.fields)
  | .bridged id gap => some (lifeEvent .debug "Adding reconnect time to base timestamp"
      [("stream_id", .shown (toString id)), ("reconnect_ms", .shown (toString (gap / 1000000)))])
  | .epochClosed id anchor => some (lifeEvent .debug "Timestamp epoch closed"
      [("stream_id", .shown (toString id)), ("anchor_us", .shown (anchorText anchor))])
  | .revived id stream next => some (lifeEvent .warn "State change on a terminated stream"
      [("stream_id", .shown (toString id)), ("stream", .shown stream),
        ("next", .shown (name next))])
  | .timeline notice => some notice.event
  | .rejected who track defect => some (dispatchEvent "Packet rejected"
      (who.fields ++ [("track_id", .shown (toString track)),
        ("kind", .quoted (StreamError.invalidPacket defect).kind),
        ("error", .shown (StreamError.invalidPacket defect).message)]))
  | .noDataTrack who => some (dispatchEvent "Data track is not found"
      (who.fields ++ [("kind", .quoted StreamError.missingDataTrack.kind)]))
  | .ingress .. | .delivered .. => none

/-- The increments of a notice.  Ingress is counted only where its sink is the counters. -/
def increments (sink : IngressSink) : Notice → List Increment
  | .timeline notice => notice.increment?.toList
  | .ingress _ source octets =>
    match sink with
    | .journal => []
    | .counters => [⟨.ingressBytes source, octets⟩, ⟨.ingressPackets source, 1⟩]
  | _ => []

/-- The entry of a notice in a journal of ingress. -/
def ingress? : Notice → Option (StreamId × Nat)
  | .ingress id _ octets => some (id, octets)
  | _ => none

/-- The packet that a notice hands to an application. -/
def packet? : Notice → Option Packet
  | .delivered _ packet => some packet
  | _ => none

end Notice

end MediaClock.LiveStream
