import MediaClock.Log
import MediaClock.Timeline.Basic

/-!
# Settings

Settings are read from variables, each of which is a text or absent.  An absent variable
leaves a default.  A conversion and a log level are read without regard to the case of
ASCII letters, a truth value exactly as `true` or `false`.  The first variable with a text
that is not understood makes the whole reading fail, in the order conversion, clearing of
wraps, log level, log format.  `Settings.toVariables` writes settings back.
-/

namespace MediaClock

/-- The text of each variable that is present. -/
abbrev Variables := String → Option String

namespace Variables

/-- The variable for the conversion of timebases. -/
def conversion : String := "PROVIDER_TIMEBASE_CONVERSION"

/-- The variable for what closing an epoch forgets. -/
def clearWraps : String := "PROVIDER_CLEAR_WRAPAROUND_ON_STOP"

/-- The variable for the least severe level that is logged. -/
def logLevel : String := "LOG_LEVEL"

/-- The variable for the format of the log. -/
def logJson : String := "LOG_JSON"

/-- The variables that are listed in a list of pairs. -/
def ofList (pairs : List (String × String)) : Variables := fun key => pairs.lookup key

end Variables

/-- How the log is written. -/
structure LogSettings where
  /-- The name of the least severe level. -/
  level : String := "info"
  /-- Whether an event is written as JSON. -/
  json : Bool := false
deriving DecidableEq, Repr

/-- All settings. -/
structure Settings where
  clock : Timeline.Settings := {}
  logging : LogSettings := {}
deriving DecidableEq, Repr

/-- A variable of the log that is not understood, with the text found. -/
inductive LogSettingsError where
  | unknownLevel (found : String)
  | unclearJson (found : String)
deriving DecidableEq, Repr

namespace LogSettingsError

/-- The variable that is not understood. -/
def culprit : LogSettingsError → String
  | .unknownLevel _ => Variables.logLevel
  | .unclearJson _ => Variables.logJson

/-- What is wrong with the variable. -/
def reason : LogSettingsError → String
  | .unknownLevel found => Variables.logLevel
      ++ " must be one of [\"trace\", \"debug\", \"info\", \"warn\", \"error\"], got '" ++ found ++ "'"
  | .unclearJson found => Variables.logJson ++ " must be true or false, got '" ++ found ++ "'"

/-- The wording of the error where only the log is set up. -/
def message (e : LogSettingsError) : String := "Configuration error: " ++ e.reason

end LogSettingsError

/-- A variable that is not understood, with the text found. -/
inductive SettingsError where
  | unknownConversion (found : String)
  | unclearClearWraps (found : String)
  | logging (e : LogSettingsError)
deriving DecidableEq, Repr

namespace SettingsError

/-- The variable that is not understood. -/
def culprit : SettingsError → String
  | .unknownConversion _ => Variables.conversion
  | .unclearClearWraps _ => Variables.clearWraps
  | .logging e => e.culprit

/-- What is wrong with the variable. -/
def reason : SettingsError → String
  | .unknownConversion found =>
    Variables.conversion ++ " must be 'float' or 'exact', got '" ++ found ++ "'"
  | .unclearClearWraps found =>
    Variables.clearWraps ++ " must be true or false, got '" ++ found ++ "'"
  | .logging e => e.reason

/-- The wording of the error. -/
def message (e : SettingsError) : String := "Invalid configuration value: " ++ e.reason

end SettingsError

/-- The text of a truth value. -/
def boolText : Bool → String
  | true => "true"
  | false => "false"

/-- The truth value that a text stands for. -/
def boolOfText? (text : String) : Option Bool :=
  if text = "true" then some true else if text = "false" then some false else none

/-- A truth value read from a variable. -/
def readBool {ε : Type} (vars : Variables) (key : String) (absent : Bool)
    (unclear : String → ε) : Except ε Bool :=
  match vars key with
  | none => .ok absent
  | some text =>
    match boolOfText? text with
    | some b => .ok b
    | none => .error (unclear text)

/-- A named value read from a variable in lower case. -/
def readNamed {α ε : Type} [Named α] (vars : Variables) (key : String) (absent : α)
    (unknown : String → ε) : Except ε α :=
  match vars key with
  | none => .ok absent
  | some text =>
    match Named.ofName? text.toLower with
    | some a => .ok a
    | none => .error (unknown text.toLower)

namespace LogSettings

/-- The settings of the log. -/
def read (vars : Variables) : Except LogSettingsError LogSettings := do
  let level ← readNamed vars Variables.logLevel LogLevel.info .unknownLevel
  let json ← readBool vars Variables.logJson false .unclearJson
  return { level := name level, json }

end LogSettings

namespace Settings

/-- All settings. -/
def read (vars : Variables) : Except SettingsError Settings := do
  let conversion ← readNamed vars Variables.conversion default .unknownConversion
  let clearWraps ← readBool vars Variables.clearWraps false .unclearClearWraps
  let logging ← (LogSettings.read vars).mapError .logging
  return { clock := { conversion, clearWraps }, logging }

/-- The variables from which settings are read back. -/
def toVariables (s : Settings) : Variables :=
  .ofList [
    (Variables.conversion, name s.clock.conversion),
    (Variables.clearWraps, boolText s.clock.clearWraps),
    (Variables.logLevel, s.logging.level),
    (Variables.logJson, boolText s.logging.json)]

end Settings

end MediaClock
