import MediaClock.Text.Alphanumeric
import MediaClock.Text.Blank
import MediaClock.Text.Pattern.Depth
import MediaClock.Text.Pattern.Escape

/-!
# Reading a pattern

A pattern is read character by character, with a view of what follows.  `Reader` holds the
groups and the sets that are open, and what the reader is in the middle of; `Reader.step`
reads one character, or refuses it, and `Reader.readAll` a whole text.
-/

namespace MediaClock.Text.Pattern

/-- What has been read last within a set. -/
inductive SetPlace where
  /-- The bracket, with a caret or not, and with hyphens or not. -/
  | opened (negated hyphens : Bool)
  /-- Nothing that a range may begin with. -/
  | fresh
  /-- An item, with its code point if it is a character. -/
  | item (code? : Option Nat)
  /-- The first character of a range and its hyphen. -/
  | range (low : Nat)
deriving DecidableEq, Repr

/-- What the reader is in the middle of. -/
inductive Reading where
  /-- The parts of a group. -/
  | parts
  | set (place : SetPlace)
  /-- Behind a backslash, within a set or not. -/
  | escape (place? : Option SetPlace)
  /-- In an escape by code point, with its value so far and the number of digits missing. -/
  | code (place? : Option SetPlace) (short : Bool) (value missing : Nat)
  /-- Behind the parenthesis that opens a group. -/
  | group
  /-- Behind the question mark of a group. -/
  | extension
  /-- Before the bracket of the name of a group. -/
  | nameStart
  /-- In the name of a group, the last character first. -/
  | name (seen : List Char)
  /-- In a list of flags, the last one first. -/
  | flags (seen : List Char)
  | comment (back : Reading)
deriving Repr

/-- What has been read so far. -/
structure Reader where
  /-- The innermost group that is open. -/
  group : OpenGroup := {}
  /-- The groups around it, the innermost one first. -/
  outer : List OpenGroup := []
  /-- The sets that are open, the innermost one first. -/
  sets : List OpenSet := []
  /-- The names of groups. -/
  names : List (List Char) := []
  reading : Reading := .parts
  /-- The number of characters to come that have been read already. -/
  ahead : Nat := 0

namespace Reader

/-- The flags in force. -/
def flags (r : Reader) : Flags := r.group.flags

/-- The reader in the middle of something else. -/
def into (r : Reader) (reading : Reading) : Reader := { r with reading }

/-! ### Groups -/

/-- A part read. -/
def pushPart (r : Reader) (depth : Nat) : Reader :=
  { r with group := r.group.push depth, reading := .parts }

/-- A group opened, with flags of its own. -/
def openGroup (r : Reader) (flags : Flags) : Reader :=
  { r with group := { flags }, outer := r.group :: r.outer, reading := .parts }

/-- A group closed; the flags of the group around it are in force again. -/
def closeGroup? (r : Reader) : Option Reader :=
  match r.outer with
  | [] => none
  | group :: outer => some ({ r with group, outer }.pushPart (r.group.depth + 1))

/-- A character that stands for itself. -/
def literal? (r : Reader) : Option Reader :=
  if r.flags.foldsCharacters then none else some (r.pushPart 0)

/-- A character within the list of flags of a group, or at its end. -/
def flag? (r : Reader) (seen : List Char) (c : Char) : Option Reader :=
  let flags := r.flags.changed seen.reverse
  if c = ')' || c = ':' then
    if seen.head? = some '-' then none
    else if c = ':' then some (r.openGroup flags)
    else if seen.isEmpty then none
    else some { r with group := r.group.pushFlags flags, reading := .parts }
  else if flagChars.contains c && !seen.contains c then some (r.into (.flags (c :: seen)))
  else none

/-- Whether a character may stand in the name of a group, as its first one or later. -/
def isNameChar (first : Bool) (c : Char) : Bool :=
  if first then c = '_' || isAlphabeticChar c
  else c = '_' || c = '.' || c = '[' || c = ']' || isAlphanumericChar c

/-- A character within the name of a group, or at its end. -/
def nameChar? (r : Reader) (seen : List Char) (c : Char) : Option Reader :=
  if c = '>' then
    if seen.isEmpty || r.names.contains seen then none
    else some { r.openGroup r.flags with names := seen :: r.names }
  else if isNameChar seen.isEmpty c then some (r.into (.name (c :: seen)))
  else none

/-! ### Sets -/

/-- An item of the innermost set, unless it had to be taken without regard to case. -/
def pushItem? (r : Reader) (place : SetPlace) : Option Reader :=
  if r.flags.foldsCharacters then none
  else some { r with sets := r.sets.modifyHead (·.push 0), reading := .set place }

/-- An item of a set, or the end of a range, with its code point if it is a character.  The
end of a range may not come before its beginning. -/
def item? (r : Reader) (place : SetPlace) (code? : Option Nat) : Option Reader :=
  if !r.flags.characters && code?.any (0x80 ≤ ·) then none
  else
    match place with
    | .range low => if code?.any (low ≤ ·) then some (r.into (.set .fresh)) else none
    | _ => r.pushItem? (.item code?)

/-- A set opened. -/
def openSet (r : Reader) : Reader :=
  { r with sets := {} :: r.sets, reading := .set (.opened false false) }

/-- A set closed; it is an item of the set around it, or a part of a group. -/
def closeSet? (r : Reader) : Option Reader :=
  match r.sets with
  | [] => none
  | [set] => some ({ r with sets := [] }.pushPart (set.depth + 1))
  | set :: around :: sets =>
    some { r with sets := around.push (set.depth + 1) :: sets, reading := .set .fresh }

/-- A bracket within a set: it begins a named set, or a set within the set. -/
def bracket? (r : Reader) (rest : List Char) : Option Reader :=
  let named? (length : Nat) : Option Reader :=
    (r.pushItem? .fresh).map fun r => { r with ahead := length }
  match namedSetLength? false rest, namedSetLength? true rest with
  | some length, _ => named? length
  | none, some length => if r.flags.characters then named? length else none
  | none, none => some r.openSet

/-- An operator between two sides of a set. -/
def operator (r : Reader) : Reader :=
  { r with sets := r.sets.modifyHead (·.operated), reading := .set .fresh, ahead := 1 }

/-- A character of a set that begins something.  Two of some characters are an operator. -/
def setStart? (r : Reader) (c : Char) (rest : List Char) : Option Reader :=
  match c with
  | '[' => r.bracket? rest
  | ']' => r.closeSet?
  | '\\' => some (r.into (.escape (some .fresh)))
  | _ =>
    if ['&', '-', '~'].contains c && rest.head? = some c then some r.operator
    else r.item? .fresh (some c.toNat)

/-- The character that tells whether a hyphen makes a range.  Where blanks and comments are
left out it is the first one that is not blank, but for the mark of a comment. -/
def sign? (r : Reader) (rest : List Char) : Option Char :=
  if !r.flags.spaced then rest.head?
  else
    match rest.dropWhile isBlankChar with
    | '#' :: comment => (comment.dropWhile isBlankChar).head?
    | rest => rest.head?

/-- A character of a set. -/
def setChar? (r : Reader) (place : SetPlace) (c : Char) (rest : List Char) : Option Reader :=
  match place with
  | .opened negated hyphens =>
    if c = '^' && !negated && !hyphens then
      if r.flags.characters then some (r.into (.set (.opened true false))) else none
    else if c = '-' then r.pushItem? (.opened negated true)
    else if c = ']' && !hyphens then r.pushItem? .fresh
    else r.setStart? c rest
  | .fresh => r.setStart? c rest
  | .item code? =>
    if c = '-' && r.sign? rest ≠ some ']' && r.sign? rest ≠ some '-' then
      code?.map fun low => r.into (.set (.range low))
    else r.setStart? c rest
  | .range _ =>
    if c = '\\' then some (r.into (.escape (some place))) else r.item? place (some c.toNat)

/-! ### Escapes -/

/-- An escape at its place. -/
def escaped? (r : Reader) (place? : Option SetPlace) (e : Escape) : Option Reader :=
  match e, place? with
  | .literal _, none => r.literal?
  | .literal code, some place => r.item? place (some code)
  | .set, none => some (r.pushPart 0)
  | .set, some place => r.item? place none
  | .anchor, none => some (r.pushPart 0)
  | .anchor, some _ => none
  | .digits count, _ => some (r.into (.code place? (count = 2) 0 count))

/-- A digit of an escape by code point. -/
def codeDigit? (r : Reader) (place? : Option SetPlace) (short : Bool) (value missing : Nat)
    (c : Char) : Option Reader := do
  let value := 16 * value + (← digitValue? c)
  if 1 < missing then some (r.into (.code place? short value (missing - 1)))
  else if short && !r.flags.characters && 0x80 ≤ value then none
  else if value.isValidChar then r.escaped? place? (.literal value)
  else none

/-! ### The reader -/

/-- A character among the parts of a group.  A question mark right behind a repetition belongs
to it. -/
def part? (r : Reader) (c : Char) (rest : List Char) : Option Reader :=
  match c with
  | '(' => some (r.into .group)
  | ')' => r.closeGroup?
  | '|' => some { r with group := r.group.divided, reading := .parts }
  | '[' => some r.openSet
  | '?' | '*' | '+' =>
    let ahead := if rest.head? = some '?' then 1 else 0
    r.group.repeated?.map fun group => { r with group, reading := .parts, ahead }
  | '\x7b' => none
  | '\\' => some (r.into (.escape none))
  | '.' => if r.flags.characters then some (r.pushPart 0) else none
  | '^' | '$' => some (r.pushPart 0)
  | _ => r.literal?

/-- Whether blanks and comments can be left out. -/
def isLoose (r : Reader) : Bool :=
  r.flags.spaced && match r.reading with
    | .parts | .set _ | .code .. | .group => true
    | _ => false

/-- The reader after a character that is not left out. -/
def read? (r : Reader) (c : Char) (rest : List Char) : Option Reader :=
  match r.reading with
  | .parts => r.part? c rest
  | .set place => r.setChar? place c rest
  | .escape place? => (escape? r.flags c).bind (r.escaped? place?)
  | .code place? short value missing => r.codeDigit? place? short value missing c
  | .group => if c = '?' then some (r.into .extension) else (r.openGroup r.flags).part? c rest
  | .extension =>
    match c with
    | 'P' => some (r.into .nameStart)
    | '<' => some (r.into (.name []))
    | _ => r.flag? [] c
  | .nameStart => if c = '<' then some (r.into (.name [])) else none
  | .name seen => r.nameChar? seen c
  | .flags seen => r.flag? seen c
  | .comment back => some (if c = '\n' then r.into back else r)

/-- The reader after one more character, with what follows it in view. -/
def step (r : Reader) (c : Char) (rest : List Char) : Option Reader :=
  match r.ahead with
  | ahead + 1 => some { r with ahead }
  | 0 =>
    if r.isLoose && isBlankChar c then some r
    else if r.isLoose && c = '#' then some (r.into (.comment r.reading))
    else r.read? c rest

/-- The reader after a text. -/
def readAll : Reader → List Char → Option Reader
  | r, [] => some r
  | r, c :: rest =>
    match r.step c rest with
    | none => none
    | some r => r.readAll rest

/-- Whether the pattern may end here. -/
def isComplete (r : Reader) : Bool :=
  let between := match r.reading with
    | .parts | .comment .parts => true
    | _ => false
  between && r.outer.isEmpty && r.group.depth ≤ depthLimit

end Reader

end MediaClock.Text.Pattern
