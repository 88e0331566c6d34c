import MediaClock.Named

/-!
# Log events

A log event has a level, a target that names the part of the program that reports it, a
message, and fields with values.  How an event is written is a matter of `Log.Render`.
-/

namespace MediaClock

/-- The levels of log events, the most detailed one first. -/
inductive LogLevel where
  | trace
  | debug
  | info
  | warn
  | error
deriving DecidableEq, Repr

namespace LogLevel

instance : Named LogLevel where
  values := [.trace, .debug, .info, .warn, .error]
  name
    | .trace => "trace"
    | .debug => "debug"
    | .info => "info"
    | .warn => "warn"
    | .error => "error"

/-- The weight of a level: the more severe, the heavier. -/
def severity : LogLevel → Nat
  | .trace => 0
  | .debug => 1
  | .info => 2
  | .warn => 3
  | .error => 4

end LogLevel

/-- The value of a field of a log event. -/
inductive FieldValue where
  /-- A number. -/
  | int (n : Int)
  /-- A text that is quoted where events are written as text. -/
  | quoted (s : String)
  /-- The display form of a value, written as it is. -/
  | shown (s : String)
deriving DecidableEq, Repr

/-- The value with neither quotes nor escapes. -/
def FieldValue.plain : FieldValue → String
  | .int n => toString n
  | .quoted s => s
  | .shown s => s

/-- Something worth a line in the log. -/
structure LogEvent where
  level : LogLevel
  target : String
  message : String
  fields : List (String × FieldValue) := []
deriving DecidableEq, Repr

end MediaClock
