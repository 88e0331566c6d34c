import MediaClock.Log.Directive

/-!
# Log filters

A filter is a list of directives.  Of the directives that apply to an event the narrowest one
decides, and of two that are equally narrow the later one.  An event to which no directive
applies is dropped.
-/

namespace MediaClock

/-- Directives, the later ones stronger. -/
structure LogFilter where
  directives : List Directive
deriving DecidableEq, Repr

namespace LogFilter

/-- The filter that keeps events of a level and above. -/
def ofLevel (level : LogLevel) : LogFilter := ⟨[{ level? := some level }]⟩

/-- The filter that a list of words, separated by commas, spells.  Empty words are left
out. -/
def ofText? (text : String) : Option LogFilter :=
  let words := (text.splitOn ",").filter fun word => !word.isEmpty
  (words.mapM Directive.ofWord?).map LogFilter.mk

/-- The narrower one of two directives, the later one if they are equally narrow. -/
def narrower (earlier : Option Directive) (later : Directive) : Option Directive :=
  match earlier with
  | none => some later
  | some d => if d.yieldsTo later then some later else some d

/-- Whether an event is kept. -/
def keeps (f : LogFilter) (e : LogEvent) : Bool :=
  match (f.directives.filter (·.appliesTo e)).foldl narrower none with
  | none => false
  | some d =>
    match d.level? with
    | none => false
    | some level => level.severity ≤ e.level.severity

end LogFilter

end MediaClock
