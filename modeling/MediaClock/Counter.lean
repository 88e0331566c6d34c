import MediaClock.Media
import MediaClock.Timeline.Field

/-!
# Counters

The counters that report ingress and discontinuities, each a name with labels from finite
vocabularies.  A `Tally` sums increments per counter, and `Tally.lines` is its exposition:
for each name a line with its type, and for each counter a line with its sum.
-/

namespace MediaClock

/-- What is counted. -/
inductive Counter where
  /-- Payload octets handed to applications. -/
  | ingressBytes (source : SourceType)
  /-- Packets handed to applications. -/
  | ingressPackets (source : SourceType)
  /-- Turns of a raw counter. -/
  | wraparounds (field : Field) (direction : Direction)
  /-- Backward steps of a raw counter whose increments are integrated. -/
  | deltaDiscontinuities (kind : Discontinuity)
deriving DecidableEq, Repr

namespace Counter

/-- The name of a counter. -/
def metric : Counter → String
  | .ingressBytes _ => "provider_ingress_bytes_total"
  | .ingressPackets _ => "provider_ingress_packets_total"
  | .wraparounds _ _ => "provider_timestamp_wraparound_total"
  | .deltaDiscontinuities _ => "provider_timestamp_delta_discontinuity_total"

/-- The labels of a counter with their values. -/
def labels : Counter → List (String × String)
  | .ingressBytes source => [("source_type", source.label)]
  | .ingressPackets source => [("source_type", source.label)]
  | .wraparounds field direction => [("field", name field), ("direction", name direction)]
  | .deltaDiscontinuities kind => [("kind", name kind)]

/-- A counter with its labels in exposition format. -/
def series (c : Counter) : String :=
  let labels := c.labels.map fun (label, value) => label ++ "=\"" ++ value ++ "\""
  c.metric ++ "\x7b" ++ ",".intercalate labels ++ "\x7d"

end Counter

/-- An amount added to a counter. -/
structure Increment where
  counter : Counter
  amount : Nat := 1
deriving DecidableEq, Repr

/-- The sum of a list of increments for each counter that it touches. -/
structure Tally where
  increments : List Increment := []
deriving DecidableEq, Repr

/-- A tally cannot be installed where there is one. -/
inductive InstallError where
  | alreadyInstalled
deriving DecidableEq, Repr

/-- The wording of the error. -/
def InstallError.message : InstallError → String
  | .alreadyInstalled => "Failed to install Prometheus metrics recorder: "
      ++ "failed to install exporter as global recorder: "
      ++ "attempted to set a recorder after the metrics system was already initialized"

namespace Tally

/-- An empty tally to count in, where none is installed yet. -/
def install : Option Tally → Except InstallError Tally
  | none => .ok {}
  | some _ => .error .alreadyInstalled

/-- The sum for one counter. -/
def total (t : Tally) (c : Counter) : Nat :=
  (t.increments.filter (·.counter = c)).foldl (fun sum increment => sum + increment.amount) 0

/-- The counters touched, also by an amount of zero, in the order of their first touch. -/
def counters (t : Tally) : List Counter := (t.increments.map (·.counter)).eraseDups

/-- The exposition of a tally, its lines in ascending order. -/
def lines (t : Tally) : List String :=
  let types := (t.counters.map Counter.metric).eraseDups.map fun metric =>
    "# TYPE " ++ metric ++ " counter"
  let sums := t.counters.map fun c => c.series ++ " " ++ toString (t.total c)
  (types ++ sums).mergeSort fun a b => a ≤ b

end Tally

end MediaClock
