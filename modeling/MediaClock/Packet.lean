import MediaClock.Track

/-!
# Packets

A packet carries a payload of one track together with its timing and its tags.  A packet
of unknown type is defective, and so is one of unknown format, unless it is a relay
packet, whose payload is passed through as it is.
-/

namespace MediaClock

/-- The octets of a packet: some that are given, followed by a number of zeros. -/
structure Payload where
  given : List UInt8 := []
  zeros : Nat := 0
deriving DecidableEq, Repr, Inhabited

namespace Payload

/-- The number of octets. -/
def length (p : Payload) : Nat := p.given.length + p.zeros

/-- All octets in order. -/
def octets (p : Payload) : List UInt8 := p.given ++ List.replicate p.zeros 0

theorem length_octets (p : Payload) :
  p.octets.length = p.length
  := by simp [octets, length]

end Payload

/-- What keeps a packet from being dispatched. -/
inductive PacketDefect where
  | untyped
  | unformatted
deriving DecidableEq, Repr

/-- The wording of a defect. -/
def PacketDefect.message : PacketDefect → String
  | .untyped => "packet type must be specified"
  | .unformatted => "bitstream format must be specified"

/-- A packet with its timing in the timebase of its track. -/
structure Packet where
  /-- The media sequence identifier of the stream. -/
  msid : UInt32
  mediaType : MediaType
  track : TrackId
  payload : Payload
  pts : Int
  dts : Int
  format : BitstreamFormat
  type : PacketType
deriving DecidableEq, Repr

namespace Packet

/-- The number of octets of the payload. -/
def length (p : Packet) : Nat := p.payload.length

/-- Whether the payload is empty. -/
def isEmpty (p : Packet) : Bool := p.length = 0

/-- Whether the payload is passed through as it is. -/
def isRelay (p : Packet) : Bool := p.type = .relay

/-- The defect of a packet, if it has one; a missing type comes before a missing format. -/
def defect? (p : Packet) : Option PacketDefect :=
  if p.type = .unknown then some .untyped
  else if ¬ p.isRelay ∧ p.format = .unknown then some .unformatted
  else none

end Packet

end MediaClock
