import MediaClock.Json.Basic

/-!
# JSON tokens

The tokens of JSON and how each is written.  A literal escapes the quotation mark, the
backslash and the control characters, and nothing else.  A literal that denotes no text is
written as half of a surrogate pair, so it is read as what it is.
-/

namespace MediaClock.Json

/-- A token of JSON. -/
inductive Token where
  | openArray
  | closeArray
  | openObject
  | closeObject
  | comma
  | colon
  | null
  | bool (b : Bool)
  | num (n : Numeral)
  | str (text : Option String)
deriving DecidableEq, Repr

/-- How a character is written within a literal. -/
def escapeChar (c : Char) : List Char :=
  if c = '"' then ['\\', '"']
  else if c = '\\' then ['\\', '\\']
  else if c = '\n' then ['\\', 'n']
  else if c = '\r' then ['\\', 'r']
  else if c = '\t' then ['\\', 't']
  else if c = '\x08' then ['\\', 'b']
  else if c = '\x0c' then ['\\', 'f']
  else if c.toNat < 0x20 then
    ['\\', 'u', '0', '0', Nat.digitChar (c.toNat / 16), Nat.digitChar (c.toNat % 16)]
  else [c]

/-- How a literal is written. -/
def literalChars : Option String → List Char
  | some text => '"' :: text.toList.flatMap escapeChar ++ ['"']
  | none => "\"\\ud800\"".toList

/-- How a number is written. -/
def numeralChars (n : Numeral) : List Char :=
  (if n.negative then ['-'] else []) ++ n.whole
    ++ (match n.fraction with
      | none => []
      | some digits => '.' :: digits)
    ++ (match n.exponent with
      | none => []
      | some (negative, digits) => 'e' :: (if negative then ['-'] else []) ++ digits)

/-- How a token is written. -/
def Token.chars : Token → List Char
  | .openArray => ['[']
  | .closeArray => [']']
  | .openObject => ['\x7b']
  | .closeObject => ['\x7d']
  | .comma => [',']
  | .colon => [':']
  | .null => ['n', 'u', 'l', 'l']
  | .bool true => ['t', 'r', 'u', 'e']
  | .bool false => ['f', 'a', 'l', 's', 'e']
  | .num n => numeralChars n
  | .str text => literalChars text

mutual

/-- The tokens of a value. -/
def tokens : Json → List Token
  | .null => [.null]
  | .bool b => [.bool b]
  | .num n => [.num n]
  | .str text => [.str text]
  | .arr items => .openArray :: itemTokens items ++ [.closeArray]
  | .obj members => .openObject :: memberTokens members ++ [.closeObject]

/-- The tokens of the items of an array. -/
def itemTokens : List Json → List Token
  | [] => []
  | [item] => item.tokens
  | item :: rest => item.tokens ++ .comma :: itemTokens rest

/-- The tokens of the members of an object. -/
def memberTokens : List (Option String × Json) → List Token
  | [] => []
  | [(key, value)] => .str key :: .colon :: value.tokens
  | (key, value) :: rest => .str key :: .colon :: value.tokens ++ .comma :: memberTokens rest

end

/-- A value as text, with no white space. -/
def text (j : Json) : String := String.ofList (j.tokens.flatMap Token.chars)

end MediaClock.Json
