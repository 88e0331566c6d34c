import MediaClock.Json.Basic
import MediaClock.Named

/-!
# Records and tags in JSON

A record is an object with a member for each of its fields, in any order and among others,
or an array of its fields in order.  A tag is the name of a value, or an object whose only
member has that name as its key and nothing as its value.
-/

namespace MediaClock.Json

/-- The values of the members with a key. -/
def valuesOf (members : List (Option String × Json)) (key : String) : List Json :=
  (members.filter fun member => member.1 = some key).map Prod.snd

/-- The one value of a field, none if there is no such field; a field given twice is an
error. -/
def slot? (members : List (Option String × Json)) (key : String) : Option (Option Json) :=
  match valuesOf members key with
  | [] => some none
  | [value] => some (some value)
  | _ => none

/-- The values of the fields of a record, in the order of the field names.  Every key has
to denote a text; a member that is no field is ignored, while an array may not be longer
than the list of fields. -/
def fields? (names : List String) : Json → Option (List (Option Json))
  | .obj members =>
    if members.all fun member => member.1.isSome then names.mapM (slot? members) else none
  | .arr items =>
    if items.length ≤ names.length then
      some (items.map some ++ List.replicate (names.length - items.length) none)
    else none
  | _ => none

/-- Whether a value is null. -/
def isNull : Json → Bool
  | .null => true
  | _ => false

/-- Whether a value is null, or an object with no members. -/
def isVoid : Json → Bool
  | .null => true
  | .obj [] => true
  | _ => false

/-- The value that a tag names.  Where it is the key of an object, the test says which
values are nothing. -/
def tag? {α : Type} [Named α] (isNothing : Json → Bool) : Json → Option α
  | .str text => text.bind Named.ofName?
  | .obj [(key, value)] => if isNothing value then key.bind Named.ofName? else none
  | _ => none

end MediaClock.Json
