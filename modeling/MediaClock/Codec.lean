import MediaClock.Json.Parser
import MediaClock.Json.Record
import MediaClock.Media
import MediaClock.Settings

/-!
# Codecs

The settings, the identifiers and the media vocabulary have a form in JSON.  An encoded
value is decoded again, and so is every other spelling of it: members in any order, among
members of no meaning, records as arrays, and tags as objects.
-/

namespace MediaClock

/-- A type whose values have a form in JSON. -/
class Codec (α : Type) where
  /-- The form of a value. -/
  encode : α → Json
  /-- The value that a form is of. -/
  decode? : Json → Option α

export Codec (encode decode?)

namespace Codec

variable {α : Type} [Codec α]

/-- A value as text. -/
def write (a : α) : String := (encode a).text

/-- The value that a text is of. -/
def read? (text : String) : Option α := (Json.parse? text).bind decode?

end Codec

/-- A named value is encoded by its name. -/
@[reducible] def Codec.ofNamed (α : Type) [Named α] : Codec α where
  encode a := .ofText (name a)
  decode? := Json.tag? Json.isNull

instance : Codec Bool where
  encode := .bool
  decode? := Json.bool?

instance : Codec String where
  encode := .ofText
  decode? := Json.text?

/-- The natural number below a bound that a value is. -/
def Json.natBelow? (bound : Nat) (j : Json) : Option Nat := do
  let i ← j.int?
  if 0 ≤ i ∧ i < bound then some i.toNat else none

instance : Codec UInt32 where
  encode n := .ofInt n.toNat
  decode? j := (j.natBelow? UInt32.size).map Nat.toUInt32

instance : Codec StreamId where
  encode id := encode id.val
  decode? j := (decode? j).map StreamId.mk

instance : Codec TrackId where
  encode id := encode id.val
  decode? j := (decode? j).map TrackId.mk

instance : Codec MediaType := .ofNamed MediaType

instance : Codec BitstreamFormat := .ofNamed BitstreamFormat

instance : Codec PacketType := .ofNamed PacketType

instance : Codec SourceType := .ofNamed SourceType

instance : Codec Conversion := .ofNamed Conversion

instance : Codec Timeline.Settings where
  encode s := .ofFields [
    ("conversion", encode s.conversion),
    ("clear_wraparound_on_stop", encode s.clearWraps)]
  decode? j := do
    match ← j.fields? ["conversion", "clear_wraparound_on_stop"] with
    | [some conversion, some clearWraps] =>
      return { conversion := ← decode? conversion, clearWraps := ← decode? clearWraps }
    | _ => none

instance : Codec LogSettings where
  encode s := .ofFields [
    ("log_level", encode s.level),
    ("json_logs", encode s.json)]
  decode? j := do
    match ← j.fields? ["log_level", "json_logs"] with
    | [some level, some json] => return { level := ← decode? level, json := ← decode? json }
    | _ => none

instance : Codec Settings where
  encode s := .ofFields [
    ("timestamp", encode s.clock),
    ("observability", encode s.logging)]
  decode? j := do
    match ← j.fields? ["timestamp", "observability"] with
    | [some clock, some logging] =>
      return { clock := ← decode? clock, logging := ← decode? logging }
    | _ => none

end MediaClock
