import MediaClock.Replay.Program

/-!
# Command line

The replay program as a process: packets and counters go to the standard output, the log
and the reason of a failure to the standard error.
-/

namespace MediaClock.Main

open Replay

/-- All octets of a stream. -/
partial def readAll (stream : IO.FS.Stream) (read : ByteArray) : IO ByteArray := do
  let more ← stream.read 65536
  if more.isEmpty then return read else readAll stream (read ++ more)

/-- What is found under a path; of a folder it does not matter what it holds. -/
def readFile (path : String) : IO (Except OpenError File) := do
  try
    return .ok (.octets (← IO.FS.readBinFile path).toList)
  catch
    | .noFileOrDirectory .. => return .error .missing
    | .inappropriateType (some _) .. => return .error .notFolder
    | .inappropriateType none .. => return .ok (.folder [])
    | .invalidArgument .. => return .error .longName
    | e => throw e

/-- The environment that the program looks at. -/
def readVariables : IO Variables := do
  let keys := [Variables.conversion, Variables.clearWraps, Variables.logLevel, Variables.logJson,
    Program.filterVariable]
  let texts ← keys.mapM fun key => return (← IO.getEnv key).map (key, ·)
  return .ofList (texts.filterMap id)

/-- A log event as it is written. -/
def written (json : Bool) (e : LogEvent) : String := if json then e.object.text else e.line

end MediaClock.Main

open MediaClock MediaClock.Main MediaClock.Replay MediaClock.Replay.Program in
/-- The replay program. -/
def main (arguments : List String) : IO UInt32 := do
  let environment ← readVariables
  let path? := (Options.ofArguments arguments).path?
  let found ← match path? with
    | some path => readFile path
    | none => pure (.ok (.octets (← readAll (← IO.getStdin) .empty).toList))
  let input := match path?, found with
    | none, .ok (.octets content) => content
    | _, _ => []
  let report := run { arguments, environment, input, file := fun _ => found }
  for line in report.packets ++ report.metrics do
    IO.println line
  for event in report.log do
    IO.eprintln (written report.json event)
  if let some failure := report.failure? then
    IO.eprintln failure.message
  return report.exitCode.toUInt32
