/-!
# Flags of a pattern

A flag is turned on or off by its letter, for what follows in a group or for a whole group.
-/

namespace MediaClock.Text.Pattern

/-- What the flags in force ask for. -/
structure Flags where
  /-- The pattern is about characters, and not about octets. -/
  characters : Bool := true
  /-- Letters are taken without regard to case. -/
  folding : Bool := false
  /-- Blanks and comments within the pattern are left out. -/
  spaced : Bool := false
deriving DecidableEq, Repr

/-- The characters of a list of flags; those behind the hyphen are turned off. -/
def flagChars : List Char := ['-', 'i', 'm', 's', 'u', 'x', 'R', 'U']

namespace Flags

/-- The flags after a list of flags. -/
def changed (f : Flags) (list : List Char) : Flags :=
  let off := list.dropWhile (· ≠ '-')
  let now (c : Char) (before : Bool) : Bool := if list.contains c then !off.contains c else before
  { characters := now 'u' f.characters
    folding := now 'i' f.folding
    spaced := now 'x' f.spaced }

/-- Whether a character of a pattern would have to be taken without regard to case. -/
def foldsCharacters (f : Flags) : Bool := f.characters && f.folding

end Flags

end MediaClock.Text.Pattern
