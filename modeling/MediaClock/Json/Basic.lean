/-!
# JSON values

A JSON value keeps what a text says, before anyone asks what it means.  A number keeps its
digits.  A string literal is a text, or none if it spells half of a surrogate pair and so
denotes no text.  An object keeps its members in order, also those that share a key.
-/

namespace MediaClock

/-- A number as it is written. -/
structure Numeral where
  negative : Bool := false
  /-- The digits before the decimal point. -/
  whole : List Char
  /-- The digits after the decimal point, if there is one. -/
  fraction : Option (List Char) := none
  /-- Whether the exponent is negative, and its digits, if there is one. -/
  exponent : Option (Bool × List Char) := none
deriving DecidableEq, Repr, Inhabited

/-- A JSON value. -/
inductive Json where
  | null
  | bool (b : Bool)
  | num (n : Numeral)
  /-- A string literal, with the text that it denotes, if it denotes one. -/
  | str (text : Option String)
  | arr (items : List Json)
  | obj (members : List (Option String × Json))
deriving Repr, Inhabited

namespace Numeral

/-- The numeral of a natural number. -/
def ofNat (n : Nat) : Numeral where
  whole := Nat.toDigits 10 n

/-- The numeral of an integer. -/
def ofInt : Int → Numeral
  | .ofNat n => .ofNat n
  | .negSucc n => { negative := true, whole := Nat.toDigits 10 (n + 1) }

/-- The natural number before the decimal point. -/
def wholeNat (n : Numeral) : Nat := Nat.ofDigitChars 10 n.whole 0

/-- The integer that a numeral denotes.  A numeral with a fraction or an exponent denotes
none, and neither does negative zero. -/
def int? (n : Numeral) : Option Int :=
  if n.fraction.isSome || n.exponent.isSome then none
  else if n.negative then if n.wholeNat = 0 then none else some (-n.wholeNat)
  else some n.wholeNat

end Numeral

namespace Json

/-- A text as a value. -/
def ofText (text : String) : Json := .str (some text)

/-- An integer as a value. -/
def ofInt (i : Int) : Json := .num (.ofInt i)

/-- An object with texts as keys. -/
def ofFields (fields : List (String × Json)) : Json :=
  .obj (fields.map fun (key, value) => (some key, value))

/-- The text that a value is. -/
def text? : Json → Option String
  | .str text => text
  | _ => none

/-- The integer that a value is. -/
def int? : Json → Option Int
  | .num n => n.int?
  | _ => none

/-- The truth value that a value is. -/
def bool? : Json → Option Bool
  | .bool b => some b
  | _ => none

end Json

end MediaClock
