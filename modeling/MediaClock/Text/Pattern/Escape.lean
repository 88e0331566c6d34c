import MediaClock.Text.Pattern.Flags

/-!
# Escapes of a pattern

What a character behind a backslash stands for, and the sets that have a name.
-/

namespace MediaClock.Text.Pattern

/-- What an escape stands for. -/
inductive Escape where
  | literal (code : Nat)
  /-- A set of characters. -/
  | set
  /-- A place between characters. -/
  | anchor
  /-- A code point given by some hexadecimal digits. -/
  | digits (count : Nat)
deriving DecidableEq, Repr

/-- The code points of the characters that are escaped by a letter. -/
def controls : List (Char × Nat) :=
  [('a', 0x07), ('t', 0x09), ('n', 0x0a), ('v', 0x0b), ('f', 0x0c), ('r', 0x0d)]

/-- What a character behind a backslash stands for. -/
def escape? (flags : Flags) (c : Char) : Option Escape :=
  match c with
  | 'x' => some (.digits 2)
  | 'u' => some (.digits 4)
  | 'U' => some (.digits 8)
  | 'A' | 'z' => some .anchor
  | 'b' | 'B' | '<' | '>' => if flags.characters then none else some .anchor
  | 'd' | 's' | 'w' => if flags.characters then none else some .set
  | _ =>
    match controls.lookup c with
    | some code => some (.literal code)
    | none => if c.toNat < 0x80 && !c.isAlphanum then some (.literal c.toNat) else none

/-- The value of a hexadecimal digit. -/
def digitValue? (c : Char) : Option Nat :=
  let digits := ['0', '1', '2', '3', '4', '5', '6', '7', '8', '9', 'a', 'b', 'c', 'd', 'e', 'f']
  digits.idxOf? c.toLower

/-! ### Named sets -/

/-- The names of sets. -/
def setNames : List String :=
  ["alnum", "alpha", "ascii", "blank", "cntrl", "digit", "graph", "lower", "print", "punct",
    "space", "upper", "word", "xdigit"]

/-- How a named set, or what is not in it, is spelled behind a bracket. -/
def namedSet (negated : Bool) (name : String) : String :=
  (if negated then ":^" else ":") ++ name ++ ":]"

/-- The number of characters of the named set that a text begins with. -/
def namedSetLength? (negated : Bool) (text : List Char) : Option Nat :=
  let spelled := setNames.map fun name => (namedSet negated name).toList
  (spelled.find? (·.isPrefixOf text)).map List.length

end MediaClock.Text.Pattern
