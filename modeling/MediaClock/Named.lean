/-!
# Named values

The tags of the media vocabulary are finite lists of values, each written by its name.
`Named.ofName?` reads a name back.
-/

namespace MediaClock

/-- A type with finitely many values, each with a name of its own. -/
class Named (α : Type) where
  /-- All values, in the order in which they are declared. -/
  values : List α
  /-- The name a value is written by. -/
  name : α → String

export Named (name)

/-- The value with a given name. -/
def Named.ofName? {α : Type} [Named α] (text : String) : Option α :=
  Named.values.find? fun a => name a == text

/-- A value that is listed, and shares its name with no other listed value, is read back
from its name. -/
theorem Named.ofName?_name {α : Type} [Named α] {a : α} (mem : a ∈ (Named.values : List α))
    (distinct : ∀ b ∈ (Named.values : List α), name b = name a → b = a) :
  Named.ofName? (name a) = some a
  := by
  cases found : (Named.ofName? (name a) : Option α) with
  | none =>
    have absent := List.find?_eq_none.mp found a mem
    simp at absent
  | some b =>
    have named : name b = name a := by simpa using List.find?_some found
    rw [distinct b (List.mem_of_find?_eq_some found) named]

end MediaClock
