import MediaClock.Codec

/-!
# Events of a script

An event is an operation on a stream, written as a JSON object with the member `op` for
the operation and a member for each argument, or as an array of the operation and its
arguments in order.
-/

namespace MediaClock.Replay

/-- The payload of a packet that an event dispatches. -/
structure Cargo where
  /-- The format; none for the usual one of the track's media. -/
  format? : Option BitstreamFormat := none
  /-- The number of octets. -/
  size : Nat := 0
deriving DecidableEq, Repr

/-- An event of a script. -/
inductive Event where
  /-- Adds a track. -/
  | track (id : TrackId) (mediaType : MediaType) (num den : UInt32)
  | start
  | stop
  /-- Rebases raw timestamps and dispatches a packet. -/
  | base (track : TrackId) (raw : Stamps) (modulus : Int) (cargo : Cargo)
  /-- Advances a running clock and dispatches a packet. -/
  | delta (track : TrackId) (raw modulus : Int) (cargo : Cargo)
  /-- Lets some milliseconds go by. -/
  | sleep (ms : Nat)
deriving DecidableEq, Repr

namespace Event

/-- The deepest nesting of an event. -/
def maxDepth : Nat := 127

/-- The timestamp that a value is. -/
def timestamp? (j : Json) : Option Int := do
  let i ← j.int?
  if Saturating.Fits i then some i else none

/-- The 64-bit natural number that a value is. -/
def word? (j : Json) : Option Nat := j.natBelow? UInt64.size

/-- The optional arguments of an event that dispatches a packet.  A format may also be
null. -/
def cargo? (format size : Option Json) : Option Cargo := do
  let format? ← match format with
    | none => some none
    | some j => if j.isNull then some none else (j.tag? Json.isVoid).map some
  let size ← match size with
    | none => some 0
    | some j => word? j
  return { format?, size }

/-- The operation of an event and the value that holds its arguments. -/
def operation? : Json → Option (String × Json)
  | .obj members =>
    match Json.valuesOf members "op" with
    | [op] => op.text?.map fun op => (op, .obj members)
    | _ => none
  | .arr (op :: arguments) => op.text?.map fun op => (op, .arr arguments)
  | _ => none

/-- The event with an operation that has no arguments. -/
def ofNothing? (event : Event) (arguments : Json) : Option Event :=
  match arguments with
  | .arr (_ :: _) => none
  | _ => some event

/-- The event that a value is. -/
def ofJson? (j : Json) : Option Event := do
  let (op, arguments) ← operation? j
  match op with
  | "track" =>
    match ← arguments.fields? ["id", "media_type", "num", "den"] with
    | [some id, some mediaType, some num, some den] =>
      return .track (← decode? id) (← mediaType.tag? Json.isVoid) (← decode? num) (← decode? den)
    | _ => none
  | "start" => ofNothing? .start arguments
  | "stop" => ofNothing? .stop arguments
  | "base" =>
    match ← arguments.fields? ["track", "pts", "dts", "max", "format", "size"] with
    | [some id, some pts, some dts, some modulus, format, size] =>
      return .base (← decode? id) ⟨← timestamp? pts, ← timestamp? dts⟩ (← timestamp? modulus)
        (← cargo? format size)
    | _ => none
  | "delta" =>
    match ← arguments.fields? ["track", "ts", "max", "format", "size"] with
    | [some id, some raw, some modulus, format, size] =>
      return .delta (← decode? id) (← timestamp? raw) (← timestamp? modulus)
        (← cargo? format size)
    | _ => none
  | "sleep_ms" =>
    match ← arguments.fields? ["ms"] with
    | [some ms] => return .sleep (← word? ms)
    | _ => none
  | _ => none

/-- The event that a line of a script is. -/
def ofLine? (line : String) : Option Event := (Json.parseWithin? maxDepth line).bind ofJson?

end Event

end MediaClock.Replay
