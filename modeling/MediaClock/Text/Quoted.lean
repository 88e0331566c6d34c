import MediaClock.Text.Shapeless

/-!
# Quoted text

A text between quotation marks in which every character can be made out: quotation marks
and backslashes are escaped, and a character without a shape of its own is shown by its
code point.
-/

namespace MediaClock.Text

/-- The code point of a character in hexadecimal. -/
def codePoint (c : Char) : String := String.ofList (Nat.toDigits 16 c.toNat)

/-- How a character is shown within quotation marks. -/
def shown (c : Char) : String :=
  if c = '\x00' then "\\0"
  else if c = '\t' then "\\t"
  else if c = '\r' then "\\r"
  else if c = '\n' then "\\n"
  else if c = '\\' then "\\\\"
  else if c = '"' then "\\\""
  else if isShapeless c then "\\u\x7b" ++ codePoint c ++ "\x7d"
  else c.toString

/-- A text between quotation marks. -/
def quoted (text : String) : String := "\"" ++ String.join (text.toList.map shown) ++ "\""

end MediaClock.Text
