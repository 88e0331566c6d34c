import MediaClock.Json.Token

/-!
# Reading JSON tokens

A text is read character by character.  Words, which are runs of letters, digits, signs
and points, are collected and then taken for a constant or a number; they are never more
than that, so a word that is neither is an error.  Within a literal, characters and
escapes are collected as pieces, and escaped halves of surrogate pairs are joined at the
closing quotation mark.
-/

namespace MediaClock.Json

/-! ### Words -/

/-- Whether a character is white space between tokens. -/
def isGap (c : Char) : Bool := c = ' ' || c = '\t' || c = '\n' || c = '\r'

/-- Whether a character is part of a word. -/
def isWordChar (c : Char) : Bool := c.isAlphanum || c = '+' || c = '-' || c = '.'

/-- The digits of a fraction, if there is one, and what follows. -/
def splitFraction? : List Char → Option (Option (List Char) × List Char)
  | '.' :: rest =>
    if (rest.takeWhile Char.isDigit).isEmpty then none
    else some (some (rest.takeWhile Char.isDigit), rest.dropWhile Char.isDigit)
  | rest => some (none, rest)

/-- The sign of an exponent, and what follows. -/
def splitSign : List Char → Bool × List Char
  | '-' :: rest => (true, rest)
  | '+' :: rest => (false, rest)
  | rest => (false, rest)

/-- The exponent that the end of a number spells, if it spells one. -/
def exponentOf? : List Char → Option (Option (Bool × List Char))
  | [] => some none
  | mark :: rest =>
    let (negative, digits) := splitSign rest
    if (mark = 'e' || mark = 'E') && !digits.isEmpty && digits.all Char.isDigit then
      some (some (negative, digits))
    else none

/-- Whether digits are a whole number, with no zero too many in front. -/
def isWhole : List Char → Bool
  | [] => false
  | ['0'] => true
  | '0' :: _ => false
  | digits => digits.all Char.isDigit

/-- The number without a sign that a word spells. -/
def unsigned? (word : List Char) : Option Numeral := do
  let whole := word.takeWhile Char.isDigit
  if isWhole whole then
    let (fraction, rest) ← splitFraction? (word.dropWhile Char.isDigit)
    let exponent ← exponentOf? rest
    return { whole, fraction, exponent }
  else none

/-- The number that a word spells. -/
def numeral? : List Char → Option Numeral
  | '-' :: rest => (unsigned? rest).map ({ · with negative := true })
  | word => unsigned? word

/-- The token that a word spells. -/
def wordToken? (word : List Char) : Option Token :=
  if word = Token.null.chars then some .null
  else if word = (Token.bool true).chars then some (.bool true)
  else if word = (Token.bool false).chars then some (.bool false)
  else (numeral? word).map .num

/-! ### Literals -/

/-- A piece of a literal: a character, or an escaped unit of sixteen bits. -/
inductive Piece where
  | char (c : Char)
  | unit (value : Nat)
deriving DecidableEq, Repr

/-- Whether a unit is the first half of a surrogate pair. -/
def isLeading (unit : Nat) : Bool := 0xd800 ≤ unit && unit < 0xdc00

/-- Whether a unit is the second half of a surrogate pair. -/
def isTrailing (unit : Nat) : Bool := 0xdc00 ≤ unit && unit < 0xe000

/-- The characters that pieces spell, unless half of a surrogate pair is among them. -/
def spelled? : List Piece → Option (List Char)
  | [] => some []
  | .char c :: rest => (spelled? rest).map (c :: ·)
  | .unit first :: .unit second :: rest =>
    if isLeading first then
      if isTrailing second then
        (spelled? rest).map (Char.ofNat (0x10000 + (first - 0xd800) * 0x400 + (second - 0xdc00)) :: ·)
      else none
    else if isTrailing first then none
    else (spelled? (.unit second :: rest)).map (Char.ofNat first :: ·)
  | .unit first :: rest =>
    if isLeading first || isTrailing first then none
    else (spelled? rest).map (Char.ofNat first :: ·)

/-- The character that an escape of one letter stands for. -/
def escaped? : Char → Option Char
  | '"' => some '"'
  | '\\' => some '\\'
  | '/' => some '/'
  | 'b' => some '\x08'
  | 'f' => some '\x0c'
  | 'n' => some '\n'
  | 'r' => some '\r'
  | 't' => some '\t'
  | _ => none

/-- The value of a hexadecimal digit. -/
def hexValue? (c : Char) : Option Nat :=
  if c.isDigit then some (c.toNat - '0'.toNat)
  else if 'a' ≤ c && c ≤ 'f' then some (c.toNat - 'a'.toNat + 10)
  else if 'A' ≤ c && c ≤ 'F' then some (c.toNat - 'A'.toNat + 10)
  else none

/-! ### The reader -/

/-- What the reader is in the middle of; what it has collected has the last part first. -/
inductive Reading where
  | gap
  | word (seen : List Char)
  | literal (seen : List Piece)
  /-- After a backslash. -/
  | escape (seen : List Piece)
  /-- In an escape by number, with the value so far and the number of digits missing. -/
  | number (seen : List Piece) (value missing : Nat)
deriving Repr

/-- The tokens read so far, the last one first, and what is being read. -/
structure Lexer where
  done : List Token := []
  reading : Reading := .gap
deriving Repr

namespace Lexer

/-- The token that a single character is. -/
def punctuation? : Char → Option Token
  | '[' => some .openArray
  | ']' => some .closeArray
  | '\x7b' => some .openObject
  | '\x7d' => some .closeObject
  | ',' => some .comma
  | ':' => some .colon
  | _ => none

/-- A character read between tokens. -/
def startToken (done : List Token) (c : Char) : Option Lexer :=
  if isGap c then some ⟨done, .gap⟩
  else if c = '"' then some ⟨done, .literal []⟩
  else if isWordChar c then some ⟨done, .word [c]⟩
  else (punctuation? c).map fun token => ⟨token :: done, .gap⟩

/-- The reader after one more character. -/
def step (l : Lexer) (c : Char) : Option Lexer :=
  match l.reading with
  | .gap => startToken l.done c
  | .word seen =>
    if isWordChar c then some { l with reading := .word (c :: seen) }
    else (wordToken? seen.reverse).bind fun token => startToken (token :: l.done) c
  | .literal seen =>
    if c = '"' then
      some ⟨.str ((spelled? seen.reverse).map String.ofList) :: l.done, .gap⟩
    else if c = '\\' then some { l with reading := .escape seen }
    else if c.toNat < 0x20 then none
    else some { l with reading := .literal (.char c :: seen) }
  | .escape seen =>
    if c = 'u' then some { l with reading := .number seen 0 4 }
    else (escaped? c).map fun e => { l with reading := .literal (.char e :: seen) }
  | .number seen value missing =>
    (hexValue? c).map fun digit =>
      let next := 16 * value + digit
      if missing ≤ 1 then { l with reading := .literal (.unit next :: seen) }
      else { l with reading := .number seen next (missing - 1) }

/-- The tokens read, if the text may end here. -/
def finish? (l : Lexer) : Option (List Token) :=
  match l.reading with
  | .gap => some l.done.reverse
  | .word seen => (wordToken? seen.reverse).map fun token => (token :: l.done).reverse
  | .literal _ | .escape _ | .number .. => none

end Lexer

/-- The tokens of a text. -/
def tokens? (text : String) : Option (List Token) :=
  (text.toList.foldlM Lexer.step {}).bind Lexer.finish?

end MediaClock.Json
