import MediaClock.Text.Pattern.Flags

/-!
# Depth of a pattern

A group is one deeper than what stands in it, and so is a part that is repeated.  Parts one
after the other, alternatives, and the items of a set are together one deeper than the
deepest of them, but one that stands alone is no deeper than it is.  A pattern may not be
deeper than `depthLimit`.

`Siblings` holds what stands side by side, `OpenSet` and `OpenGroup` what has been read of a
set and of a group.
-/

namespace MediaClock.Text.Pattern

/-- The depth that a pattern may have. -/
def depthLimit : Nat := 250

/-- What stands side by side: how many there are, and the depth of the deepest one. -/
structure Siblings where
  count : Nat := 0
  deepest : Nat := 0
deriving DecidableEq, Repr

namespace Siblings

/-- One more, of a given depth. -/
def push (s : Siblings) (depth : Nat) : Siblings := ⟨s.count + 1, max s.deepest depth⟩

/-- The depth of all together. -/
def depth (s : Siblings) : Nat := if s.count ≤ 1 then s.deepest else s.deepest + 1

end Siblings

/-- A set of which the end has not been read. -/
structure OpenSet where
  /-- The depth of what stands before the last operator. -/
  left? : Option Nat := none
  /-- The items behind the last operator. -/
  items : Siblings := {}
deriving DecidableEq, Repr

namespace OpenSet

/-- One more item, of a given depth. -/
def push (s : OpenSet) (depth : Nat) : OpenSet := { s with items := s.items.push depth }

/-- The depth of what stands in the set.  An operator is one deeper than its two sides. -/
def depth (s : OpenSet) : Nat :=
  match s.left? with
  | none => s.items.depth
  | some left => max left s.items.depth + 1

/-- The set behind one more operator, of which all that has been read is the left side. -/
def operated (s : OpenSet) : OpenSet := { left? := some s.depth }

end OpenSet

/-- A group of which the end has not been read, or the whole pattern. -/
structure OpenGroup where
  /-- The flags in force. -/
  flags : Flags := {}
  /-- The alternatives before the last one. -/
  alternatives : Siblings := {}
  /-- The parts of the last alternative, without the one that can be repeated. -/
  parts : Siblings := {}
  /-- The depth of the part that can be repeated. -/
  last? : Option Nat := none
deriving DecidableEq, Repr

namespace OpenGroup

/-- All parts of the last alternative. -/
def allParts (g : OpenGroup) : Siblings :=
  match g.last? with
  | none => g.parts
  | some depth => g.parts.push depth

/-- One more part, of a given depth. -/
def push (g : OpenGroup) (depth : Nat) : OpenGroup :=
  { g with parts := g.allParts, last? := some depth }

/-- A change of flags, which is a part that cannot be repeated. -/
def pushFlags (g : OpenGroup) (flags : Flags) : OpenGroup :=
  { g with flags, parts := g.allParts.push 0, last? := none }

/-- The last part repeated. -/
def repeated? (g : OpenGroup) : Option OpenGroup :=
  g.last?.map fun depth => { g with last? := some (depth + 1) }

/-- The group behind one more bar. -/
def divided (g : OpenGroup) : OpenGroup :=
  { flags := g.flags, alternatives := g.alternatives.push g.allParts.depth }

/-- The depth of what stands in the group. -/
def depth (g : OpenGroup) : Nat := (g.alternatives.push g.allParts.depth).depth

end OpenGroup

end MediaClock.Text.Pattern
