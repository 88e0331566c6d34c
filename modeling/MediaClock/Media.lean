import MediaClock.Named

/-!
# The vocabulary of media

What a track carries, how the payload of a packet is laid out, which role a packet plays,
and which protocol family a stream arrives on.  Each is a finite type, the first value of
which is its default, and each value has the name it is written by in settings, scripts
and reports.
-/

namespace MediaClock

/-- The kind of media that a track carries. -/
inductive MediaType where
  | unknown
  | video
  | audio
  /-- Timed metadata. -/
  | data
  | subtitle
deriving DecidableEq, Repr, Inhabited

namespace MediaType

instance : Named MediaType where
  values := [.unknown, .video, .audio, .data, .subtitle]
  name
    | .unknown => "unknown"
    | .video => "video"
    | .audio => "audio"
    | .data => "data"
    | .subtitle => "subtitle"

/-- The number of a media type. -/
def code : MediaType → Nat
  | .unknown => 0
  | .video => 1
  | .audio => 2
  | .data => 3
  | .subtitle => 4

end MediaType

/-- The layout of the payload of a packet. -/
inductive BitstreamFormat where
  | unknown
  /-- H.264 with length prefixes. -/
  | h264Avcc
  /-- H.264 with start codes. -/
  | h264AnnexB
  /-- H.265 with start codes. -/
  | h265AnnexB
  | vp8
  | aacRaw
  | aacAdts
  | aacLatm
  | opus
  | jpeg
  | png
  | id3v2
  | amf0
  | cue
  | webvtt
deriving DecidableEq, Repr, Inhabited

instance : Named BitstreamFormat where
  values := [.unknown, .h264Avcc, .h264AnnexB, .h265AnnexB, .vp8, .aacRaw, .aacAdts, .aacLatm,
    .opus, .jpeg, .png, .id3v2, .amf0, .cue, .webvtt]
  name
    | .unknown => "unknown"
    | .h264Avcc => "h264_avcc"
    | .h264AnnexB => "h264_annex_b"
    | .h265AnnexB => "h265_annex_b"
    | .vp8 => "vp8"
    | .aacRaw => "aac_raw"
    | .aacAdts => "aac_adts"
    | .aacLatm => "aac_latm"
    | .opus => "opus"
    | .jpeg => "jpeg"
    | .png => "png"
    | .id3v2 => "id3v2"
    | .amf0 => "amf0"
    | .cue => "cue"
    | .webvtt => "webvtt"

/-- The role of a packet within its bitstream. -/
inductive PacketType where
  | unknown
  /-- Configuration for the decoder. -/
  | sequenceHeader
  /-- Coded picture data. -/
  | nalu
  /-- A payload in the format that the packet declares. -/
  | raw
  /-- A payload passed through as it is, with no format required. -/
  | relay
  | event
deriving DecidableEq, Repr, Inhabited

instance : Named PacketType where
  values := [.unknown, .sequenceHeader, .nalu, .raw, .relay, .event]
  name
    | .unknown => "unknown"
    | .sequenceHeader => "sequence_header"
    | .nalu => "nalu"
    | .raw => "raw"
    | .relay => "relay"
    | .event => "event"

/-- The protocol family that a stream arrives on. -/
inductive SourceType where
  | unknown
  | rtmp
  | rtsp
  | rtspPull
  | srt
  | webRtc
  | mpegts
  /-- Relay from an origin. -/
  | ovt
  | file
deriving DecidableEq, Repr, Inhabited

namespace SourceType

instance : Named SourceType where
  values := [.unknown, .rtmp, .rtsp, .rtspPull, .srt, .webRtc, .mpegts, .ovt, .file]
  name
    | .unknown => "unknown"
    | .rtmp => "rtmp"
    | .rtsp => "rtsp"
    | .rtspPull => "rtsp_pull"
    | .srt => "srt"
    | .webRtc => "web_rtc"
    | .mpegts => "mpegts"
    | .ovt => "ovt"
    | .file => "file"

/-- The label of a source on counters: its name, but one word for WebRTC. -/
def label : SourceType → String
  | .webRtc => "webrtc"
  | other => name other

end SourceType

end MediaClock
