import MediaClock.Log
import MediaClock.Text.Octets
import MediaClock.Text.Pattern

/-!
# Log directives

A directive sets a level for some events: for those whose target begins with the target of
the directive, and that have the field that the directive names in brackets and braces, if
it names them.  A directive may also name a span, or the value of a field within one; it is
about spans then, and applies to no event as such.

`Directive.ofWord?` reads a directive.  A word is taken apart at the places where its
brackets, braces and equals sign stand when blanks around it are left out, while the pieces
between those places are cut from the word with its blanks.
-/

namespace MediaClock

/-- Whether an event has a field; its message is one. -/
def LogEvent.hasField (e : LogEvent) (field : String) : Bool :=
  field = "message" || (e.fields.any fun entry => entry.1 = field)

/-- A field, with or without a value. -/
structure FieldClause where
  field : String
  /-- The number or the pattern that the value of the field has to match. -/
  value? : Option String := none
deriving DecidableEq, Repr

/-- The level from which on some events are kept. -/
structure Directive where
  /-- How the targets of the events begin; none for all targets. -/
  target? : Option String := none
  /-- The span that the directive is about; none if it is about events. -/
  span? : Option String := none
  /-- The field that the events have; none for all events. -/
  clause? : Option FieldClause := none
  /-- The least severe level that is kept; none if no event is. -/
  level? : Option LogLevel
deriving DecidableEq, Repr

namespace FieldClause

/-- Whether digits, with a point and an exponent or without, are a decimal number. -/
def isDecimal (digits : List Char) : Bool :=
  let whole := digits.takeWhile Char.isDigit
  let rest := digits.dropWhile Char.isDigit
  let fraction := match rest with
    | '.' :: rest => rest.takeWhile Char.isDigit
    | _ => []
  let rest := match rest with
    | '.' :: rest => rest.dropWhile Char.isDigit
    | _ => rest
  !(whole ++ fraction).isEmpty && match rest with
    | [] => true
    | mark :: exponent =>
      let exponent := match exponent with
        | '+' :: digits | '-' :: digits => digits
        | digits => digits
      mark.toLower = 'e' && !exponent.isEmpty && exponent.all Char.isDigit

/-- Whether a text is a number with a plus sign in front, and so no pattern. -/
def isPositive (text : String) : Bool :=
  match text.toList with
  | '+' :: rest =>
    isDecimal rest || ["inf", "infinity", "nan"].contains (String.ofList rest).toLower
  | _ => false

/-- The clause that a text spells: a field, or a field and a value; what follows a second
equals sign counts for nothing. -/
def ofText? (text : String) : Option FieldClause :=
  match text.splitOn "=" with
  | field :: value :: _ =>
    if isPositive value || Text.isPattern value then some ⟨field, some value⟩ else none
  | _ => some ⟨text, none⟩

end FieldClause

namespace Directive

/-- Whether a directive applies to an event. -/
def appliesTo (d : Directive) (e : LogEvent) : Bool :=
  d.span?.isNone
    && (d.target?.all fun start => start.toList.isPrefixOf e.target.toList)
    && d.clause?.all fun clause => clause.value?.isNone && e.hasField clause.field

/-- How narrow the target of a directive is: the longer, the narrower. -/
def narrowness (d : Directive) : Nat :=
  match d.target? with
  | none => 0
  | some start => start.utf8ByteSize + 1

/-- Whether a directive yields to a later one: the one with the narrower target decides,
then the one with a field, then the one whose field comes later in the order of texts. -/
def yieldsTo (d later : Directive) : Bool :=
  if d.narrowness = later.narrowness then
    match d.clause?, later.clause? with
    | none, _ => true
    | some _, none => false
    | some clause, some other => clause.field ≤ other.field
  else d.narrowness < later.narrowness

/-! ### Levels -/

/-- The levels by their numbers; the first one is no level at all. -/
def numberedLevels : List (Option LogLevel) :=
  [none, some .error, some .warn, some .info, some .debug, some .trace]

/-- The digits of a word that is a number, with or without a sign in front. -/
def digits? (word : String) : Option (List Char) :=
  let digits := match word.toList with
    | '+' :: rest => rest
    | chars => chars
  if digits.isEmpty || !digits.all Char.isDigit then none else some digits

/-- The level, or none for no level at all, that a word stands for: its number, or its name
in upper or lower case. -/
def levelOfWord? (word : String) : Option (Option LogLevel) :=
  match digits? word with
  | some digits => numberedLevels[Nat.ofDigitChars 10 digits 0]?
  | none =>
    if word.toLower = "off" then some none
    else (Named.ofName? word.toLower).map some

/-! ### Reading -/

/-- What is read of a directive, and the place where it begins. -/
inductive Reading where
  | start
  /-- A level or a target, from the beginning on. -/
  | word
  | span (start : Nat)
  | clause (start : Nat)
  /-- Behind the braces. -/
  | unbraced
  /-- Behind the brackets. -/
  | unbracketed
  | level (start : Nat)

/-- A directive in which every level is kept so far, and what is being read. -/
structure Draft where
  directive : Directive := { level? := some .trace }
  reading : Reading := .start

/-- Whether a directive may begin with a character, if it does not begin with a bracket. -/
def mayBegin (c : Char) : Bool :=
  c = '-' || c = ':' || c = '_' || Text.isAlphanumericChar c

namespace Draft

/-- The draft after one more character at its place.  What has been read up to there is cut
from the word. -/
def step (word : String) (d : Draft) (place : Nat) (sign : Char) : Option Draft :=
  let cutFrom (start : Nat) : String := Text.cut word start (some place)
  match d.reading with
  | .start =>
    if sign = '[' then some { d with reading := .span (place + 1) }
    else if mayBegin sign then some { d with reading := .word }
    else none
  | .word =>
    let aimed (reading : Reading) : Draft :=
      ⟨{ d.directive with target? := some (cutFrom 0) }, reading⟩
    match sign with
    | '=' => some (aimed (.level (place + 1)))
    | '[' => some (aimed (.span (place + 1)))
    | _ => some d
  | .span start =>
    match sign with
    | ']' => some ⟨{ d.directive with span? := some (cutFrom start) }, .unbracketed⟩
    | '\x7b' =>
      let span? := if cutFrom start = "" then none else some (cutFrom start)
      some ⟨{ d.directive with span? }, .clause (place + 1)⟩
    | _ => some d
  | .clause start =>
    if sign ≠ '\x7d' then some d
    else if cutFrom start = "" then none
    else (FieldClause.ofText? (cutFrom start)).map fun clause =>
      ⟨{ d.directive with clause? := some clause }, .unbraced⟩
  | .unbraced => if sign = ']' then some { d with reading := .unbracketed } else none
  | .unbracketed => if sign = '=' then some { d with reading := .level (place + 1) } else none
  | .level _ => some d

/-- The directive of a draft at the end of the word. -/
def finish? (word : String) (d : Draft) : Option Directive :=
  match d.reading with
  | .word =>
    match levelOfWord? word with
    | some level? => some { d.directive with level? }
    | none => some { d.directive with target? := some word }
  | .level start =>
    let level := Text.cut word start none
    if level = "" then some d.directive
    else (levelOfWord? level).map fun level? => { d.directive with level? }
  | .unbracketed => some d.directive
  | .start | .span _ | .clause _ | .unbraced => none

end Draft

/-- The directive that a word spells: a level, or a target, a span and a field, each of which
may be left out, with or without a level. -/
def ofWord? (word : String) : Option Directive :=
  let signs := Text.placed 0 (Text.trimmed word.toList)
  let draft? := signs.foldlM (fun (d : Draft) (place, sign) => d.step word place sign) {}
  draft?.bind (·.finish? word)

end Directive

end MediaClock
