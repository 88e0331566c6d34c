import MediaClock.Stream.Live
import MediaClock.Text.Quoted

/-!
# Inspection of a stream

A one-line text that shows a stream with all its parts: records by their fields, options
as `Some` or `None`, maps by their entries in ascending order.  The instant of the last
packet is shown only as present or not.
-/

namespace MediaClock.LiveStream

/-- A record by its fields. -/
def inspectRecord (type : String) (fields : List (String × String)) : String :=
  let shown := fields.map fun (field, value) => field ++ ": " ++ value
  type ++ " \x7b " ++ ", ".intercalate shown ++ " \x7d"

/-- An optional value. -/
def inspectOption {α : Type} (inspect : α → String) : Option α → String
  | none => "None"
  | some a => "Some(" ++ inspect a ++ ")"

/-- A track identifier. -/
def inspectTrackId (id : TrackId) : String := s!"TrackId({id})"

/-- A map by its entries. -/
def inspectEntries (entries : List (TrackId × String)) : String :=
  let shown := entries.map fun (id, value) => inspectTrackId id ++ ": " ++ value
  "\x7b" ++ ", ".intercalate shown ++ "\x7d"

/-- A map of values that have a text. -/
def inspectMap {α : Type} [ToString α] (m : TrackMap α) : String :=
  inspectEntries (m.toList.map fun (id, value) => (id, toString value))

/-- A kind of media. -/
def inspectMediaType : MediaType → String
  | .unknown => "Unknown"
  | .video => "Video"
  | .audio => "Audio"
  | .data => "Data"
  | .subtitle => "Subtitle"

/-- A source. -/
def inspectSource : SourceType → String
  | .unknown => "Unknown"
  | .rtmp => "Rtmp"
  | .rtsp => "Rtsp"
  | .rtspPull => "RtspPull"
  | .srt => "Srt"
  | .webRtc => "WebRtc"
  | .mpegts => "Mpegts"
  | .ovt => "Ovt"
  | .file => "File"

/-- A phase. -/
def inspectPhase : Phase → String
  | .idle => "Idle"
  | .connected => "Connected"
  | .described => "Described"
  | .playing => "Playing"
  | .stopped => "Stopped"
  | .error => "Error"
  | .terminated => "Terminated"

/-- A way of converting. -/
def inspectConversion : Conversion → String
  | .float => "Float"
  | .exact => "Exact"

/-- A track. -/
def inspectTrack (track : Track) : String :=
  inspectRecord "Track" [
    ("id", inspectTrackId track.id),
    ("media_type", inspectMediaType track.mediaType),
    ("timebase", inspectRecord "Timebase" [
      ("num", toString track.timebase.num),
      ("den", toString track.timebase.den)])]

/-- A descriptor. -/
def inspectDescriptor (d : Descriptor) : String :=
  inspectRecord "StreamInfo" [
    ("id", s!"StreamId({d.id})"),
    ("name", Text.quoted d.name),
    ("msid", toString d.msid),
    ("source_type", inspectSource d.source),
    ("tracks", inspectRecord "TrackSet" [
      ("tracks", inspectEntries (d.tracks.toList.map fun track => (track.id, inspectTrack track)))]),
    ("requested_url", inspectOption Text.quoted d.requestedUrl),
    ("final_url", inspectOption Text.quoted d.finalUrl)]

/-- A pair of maps, one for each field. -/
def inspectPerField (pts dts : String) : String :=
  inspectRecord "PerField" [("pts", pts), ("dts", dts)]

/-- A timeline. -/
def inspectTimeline (t : Timeline) : String :=
  inspectRecord "TimestampEngine" [
    ("config", inspectRecord "TimestampConfig" [
      ("conversion", inspectConversion t.settings.conversion),
      ("clear_wraparound_on_stop", toString t.settings.clearWraps)]),
    ("start_timestamp_us", inspectOption toString t.start?),
    ("base_timestamp_us", inspectMap t.bases),
    ("source_timestamp", inspectMap t.sources),
    ("last_timestamp", inspectMap t.lasts),
    ("wraparound_count", inspectPerField (inspectMap t.pts.counts) (inspectMap t.dts.counts)),
    ("last_origin", inspectPerField (inspectMap t.pts.origins) (inspectMap t.dts.origins))]

/-- A live stream, of which some parts are left out. -/
def inspect (s : LiveStream) : String :=
  let fields := [
    ("info", inspectDescriptor s.descriptor),
    ("application", Text.quoted s.applicationName),
    ("state", inspectPhase s.phase),
    ("timestamps", inspectTimeline s.timeline),
    ("last_packet_received", inspectOption (fun _ => "_") s.lastPacket?)]
  let shown := fields.map fun (field, value) => field ++ ": " ++ value
  "ProviderStream \x7b " ++ ", ".intercalate shown ++ ", .. \x7d"

end MediaClock.LiveStream
