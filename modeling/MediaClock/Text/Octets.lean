/-!
# Places in a text

A place in a text is the number of octets before it, in the UTF-8 form of the text.
-/

namespace MediaClock.Text

/-- The characters of a text, each with its place; the first argument is the place of the
first one. -/
def placed : Nat → List Char → List (Nat × Char)
  | _, [] => []
  | start, c :: rest => (start, c) :: placed (start + c.utf8Size) rest

/-- The part of a text from one place up to another one, or up to its end. -/
def cut (text : String) (start : Nat) (stop? : Option Nat) : String :=
  let within := (placed 0 text.toList).filter fun (place, _) =>
    start ≤ place && stop?.all (place < ·)
  String.ofList (within.map Prod.snd)

end MediaClock.Text
