import MediaClock.Log.Filter
import MediaClock.Replay.File
import MediaClock.Replay.Run
import MediaClock.Replay.Script

/-!
# The replay program

The program replays the script that its arguments name, or else its input, and prints
every packet; at the option `--metrics` it prints the counters afterwards.  The environment
holds the settings, and may hold a filter for the log.  What the program does is a function
of its arguments, its environment, its input and its files.
-/

namespace MediaClock.Replay.Program

/-- What the program is run with. -/
structure Invocation where
  arguments : List String := []
  environment : Variables := fun _ => none
  input : List UInt8 := []
  /-- What is found under a path. -/
  file : String → Except OpenError File := fun _ => .error .missing

/-- What the arguments ask for. -/
structure Options where
  /-- Whether the counters are printed. -/
  metrics : Bool := false
  /-- The path of the script; none for the input. -/
  path? : Option String := none
deriving DecidableEq, Repr

/-- The options that arguments spell; of several paths the last one counts. -/
def Options.ofArguments (arguments : List String) : Options where
  metrics := arguments.contains "--metrics"
  path? := (arguments.filter (· ≠ "--metrics")).getLast?

/-- Why the program has failed. -/
inductive Failure where
  | settings (e : SettingsError)
  | unopenedScript (path : String) (e : OpenError)
  | directoryScript
  /-- A line of the script is no text. -/
  | garbledScript
deriving DecidableEq, Repr

namespace Failure

/-- What the program was about to do. -/
def context : Failure → String
  | .settings _ => "Failed to load configuration"
  | .unopenedScript path _ => "Failed to open " ++ path
  | .directoryScript | .garbledScript => "Failed to read script"

/-- What kept the program from it. -/
def cause : Failure → String
  | .settings e => e.message
  | .unopenedScript _ e => e.message
  | .directoryScript => "Is a directory (os error 21)"
  | .garbledScript => "stream did not contain valid UTF-8"

/-- The last words of the program.  Every line of the cause is indented. -/
def message (f : Failure) : String :=
  let lines := (f.cause.splitOn "\n").map ("    " ++ ·)
  "Error: " ++ f.context ++ "\n\nCaused by:\n" ++ "\n".intercalate lines

end Failure

/-- What the program does. -/
structure Report where
  /-- The packets printed, one in a line. -/
  packets : List String := []
  /-- The counters printed, in lines. -/
  metrics : List String := []
  /-- The log events that are not filtered out. -/
  log : List LogEvent := []
  /-- Whether log events are written as JSON. -/
  json : Bool := false
  failure? : Option Failure := none

/-- The exit code of the program. -/
def Report.exitCode (r : Report) : Nat := if r.failure?.isSome then 1 else 0

/-- The variable for the filter of the log. -/
def filterVariable : String := "RUST_LOG"

/-- The filter of the log: the one that its variable spells, or else the level that the
settings name. -/
def filter (environment : Variables) (settings : LogSettings) : LogFilter :=
  match (environment filterVariable).bind LogFilter.ofText? with
  | some filter => filter
  | none => .ofLevel ((Named.ofName? settings.level).getD .info)

/-- The log event at the beginning of a run. -/
def startEvent (options : Options) (settings : Settings) : LogEvent :=
  runEvent .info "Starting replay"
    [("script", .quoted (options.path?.getD "-")),
      ("conversion", .quoted (name settings.clock.conversion))]

/-- The log event at the end of a run. -/
def finishEvent (r : Replay) : LogEvent :=
  runEvent .info "Replay finished" [("state", .shown (name r.stream.phase))]

/-- The script replayed with given settings. -/
def replay (options : Options) (settings : Settings) (script : List UInt8) : Report :=
  let step := (ofSettings settings.clock).run 1 (Script.lines script)
  let packets := step.notices.filterMap Notice.printed?
  let events := startEvent options settings :: step.notices.filterMap Notice.event?
  if step.answer then
    { packets
      metrics := if options.metrics then
          Tally.lines ⟨step.notices.flatMap Notice.increments⟩ else []
      log := events ++ [finishEvent step.state] }
  else { packets, log := events, failure? := some .garbledScript }

/-- The whole program. -/
def run (i : Invocation) : Report :=
  match Settings.read i.environment with
  | .error e => { failure? := some (.settings e) }
  | .ok settings =>
    let options := Options.ofArguments i.arguments
    let report := match options.path? with
      | none => replay options settings i.input
      | some path =>
        match i.file path with
        | .error e => { failure? := some (.unopenedScript path e) }
        | .ok (.folder _) =>
          { log := [startEvent options settings], failure? := some .directoryScript }
        | .ok (.octets content) => replay options settings content
    { report with
      log := report.log.filter (filter i.environment settings.logging).keeps
      json := settings.logging.json }

end MediaClock.Replay.Program
