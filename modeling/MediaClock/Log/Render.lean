import MediaClock.Json.Token
import MediaClock.Log
import MediaClock.Text.Quoted

/-!
# Writing log events

A log event is written as one line of text, with its fields behind the message, or as a
JSON object, in which numbers stay numbers and every other value is a string.
-/

namespace MediaClock

/-- A value behind its field in a line of text. -/
def FieldValue.inText : FieldValue → String
  | .int n => toString n
  | .quoted s => Text.quoted s
  | .shown s => s

/-- A value as a member of an object. -/
def FieldValue.inJson : FieldValue → Json
  | .int n => .ofInt n
  | .quoted s => .ofText s
  | .shown s => .ofText s

namespace LogEvent

/-- The event as a line of text. -/
def line (e : LogEvent) : String :=
  let fields := e.fields.map fun (field, value) => " " ++ field ++ "=" ++ value.inText
  (name e.level).toUpper ++ " " ++ e.target ++ ": " ++ e.message ++ String.join fields

/-- The event as an object. -/
def object (e : LogEvent) : Json :=
  .ofFields [
    ("fields", .ofFields (e.fields.map fun (field, value) => (field, value.inJson))),
    ("level", .ofText (name e.level)),
    ("message", .ofText e.message),
    ("target", .ofText e.target)]

end LogEvent

end MediaClock
