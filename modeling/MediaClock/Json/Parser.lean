import MediaClock.Json.Lexer

/-!
# Reading JSON values

The tokens of a value are read one by one, with a stack of the arrays and objects that are
open.  Nothing limits the nesting here; `parseWithin?` refuses a text that is nested too
deep, that holds a literal which denotes no text, or that holds a number beyond the range
of floating point numbers.
-/

namespace MediaClock.Json

/-- An array or an object that is open, with what it holds so far, the last part first. -/
inductive Frame where
  | arr (items : List Json)
  /-- With the key of the member that is being read. -/
  | obj (members : List (Option String × Json)) (key : Option String)

/-- What the parser is waiting for. -/
inductive Parser where
  /-- A value, or the end of the array that has just been opened. -/
  | value (canClose : Bool) (stack : List Frame)
  /-- A key, or the end of the object that has just been opened. -/
  | key (canClose : Bool) (members : List (Option String × Json)) (stack : List Frame)
  | colon (members : List (Option String × Json)) (key : Option String) (stack : List Frame)
  /-- What comes after a value. -/
  | after (value : Json) (stack : List Frame)

namespace Parser

/-- A token read where a value may begin. -/
def startValue (stack : List Frame) : Token → Option Parser
  | .null => some (.after .null stack)
  | .bool b => some (.after (.bool b) stack)
  | .num n => some (.after (.num n) stack)
  | .str text => some (.after (.str text) stack)
  | .openArray => some (.value true (.arr [] :: stack))
  | .openObject => some (.key true [] stack)
  | .closeArray | .closeObject | .comma | .colon => none

/-- A token read after a value. -/
def afterValue (v : Json) : List Frame → Token → Option Parser
  | .arr items :: stack, .comma => some (.value false (.arr (v :: items) :: stack))
  | .arr items :: stack, .closeArray => some (.after (.arr (v :: items).reverse) stack)
  | .obj members k :: stack, .comma => some (.key false ((k, v) :: members) stack)
  | .obj members k :: stack, .closeObject =>
    some (.after (.obj ((k, v) :: members).reverse) stack)
  | _, _ => none

/-- The parser after one more token. -/
def step : Parser → Token → Option Parser
  | .value true (.arr [] :: stack), .closeArray => some (.after (.arr []) stack)
  | .value _ stack, token => startValue stack token
  | .key true [] stack, .closeObject => some (.after (.obj []) stack)
  | .key _ members stack, .str k => some (.colon members k stack)
  | .key .., _ => none
  | .colon members k stack, .colon => some (.value false (.obj members k :: stack))
  | .colon .., _ => none
  | .after v stack, token => afterValue v stack token

/-- The value read, if the tokens may end here. -/
def finish? : Parser → Option Json
  | .after v [] => some v
  | _ => none

end Parser

/-- The value of a list of tokens. -/
def ofTokens? (tokens : List Token) : Option Json :=
  (tokens.foldlM Parser.step (.value false [])).bind Parser.finish?

mutual

/-- The tokens of a value are read where a value may begin. -/
theorem foldlM_step_tokens (j : Json) (canClose : Bool) (stack : List Frame)
    (rest : List Token) :
  (j.tokens ++ rest).foldlM Parser.step (.value canClose stack)
    = rest.foldlM Parser.step (.after j stack)
  := by
  match j with
  | .null | .bool _ | .num _ | .str _ => simp [tokens, Parser.step, Parser.startValue]
  | .arr [] => simp [tokens, itemTokens, Parser.step, Parser.startValue]
  | .arr (item :: items) =>
    have read := foldlM_step_itemTokens (item :: items) (by simp) true [] stack rest
    simp [tokens, Parser.step, Parser.startValue] at read ⊢
    exact read
  | .obj [] => simp [tokens, memberTokens, Parser.step, Parser.startValue]
  | .obj (member :: members) =>
    have read := foldlM_step_memberTokens (member :: members) (by simp) true [] stack rest
    simp [tokens, Parser.step, Parser.startValue] at read ⊢
    exact read

/-- The tokens of items are read into an open array. -/
theorem foldlM_step_itemTokens (items : List Json) (ne : items ≠ []) (canClose : Bool)
    (done : List Json) (stack : List Frame) (rest : List Token) :
  (itemTokens items ++ .closeArray :: rest).foldlM Parser.step
      (.value canClose (.arr done :: stack))
    = rest.foldlM Parser.step (.after (.arr (done.reverse ++ items)) stack)
  := by
  match items with
  | [item] =>
    rw [itemTokens, foldlM_step_tokens item]
    simp [Parser.step, Parser.afterValue]
  | item :: next :: later =>
    have read := foldlM_step_itemTokens (next :: later) (by simp) false (item :: done) stack rest
    simp only [itemTokens]
    rw [List.append_assoc, foldlM_step_tokens item]
    simp [Parser.step, Parser.afterValue] at read ⊢
    exact read

/-- The tokens of members are read into an open object. -/
theorem foldlM_step_memberTokens (members : List (Option String × Json)) (ne : members ≠ [])
    (canClose : Bool) (done : List (Option String × Json)) (stack : List Frame)
    (rest : List Token) :
  (memberTokens members ++ .closeObject :: rest).foldlM Parser.step
      (.key canClose done stack)
    = rest.foldlM Parser.step (.after (.obj (done.reverse ++ members)) stack)
  := by
  match members with
  | [(k, v)] =>
    have value := foldlM_step_tokens v false (.obj done k :: stack) (.closeObject :: rest)
    simp [memberTokens, Parser.step, Parser.afterValue] at value ⊢
    exact value
  | (k, v) :: next :: later =>
    have value := foldlM_step_tokens v false (.obj done k :: stack)
      (.comma :: memberTokens (next :: later) ++ .closeObject :: rest)
    have read := foldlM_step_memberTokens (next :: later) (by simp) false ((k, v) :: done)
      stack rest
    simp [memberTokens, Parser.step, Parser.afterValue] at value read ⊢
    rw [value]
    exact read

end

/-- Every value is read from its tokens. -/
theorem ofTokens?_tokens (j : Json) :
  ofTokens? j.tokens = some j
  := by
  have read := foldlM_step_tokens j false [] []
  rw [List.append_nil] at read
  rw [ofTokens?, read]
  rfl

/-- The value of a text. -/
def parse? (text : String) : Option Json := (tokens? text).bind ofTokens?

/-! ### Limits -/

/-- A digit appended to a significand, unless it then exceeds 64 bits. -/
def appendDigit? (significand : Nat) (digit : Char) : Option Nat :=
  let next := 10 * significand + (digit.toNat - '0'.toNat)
  if next < UInt64.size then some next else none

/-- The significand that the leading digits of a list add up to, and the number of digits
left over once one does not fit. -/
def takeDigits (significand : Nat) : List Char → Nat × Nat
  | [] => (significand, 0)
  | digit :: rest =>
    match appendDigit? significand digit with
    | some next => takeDigits next rest
    | none => (significand, rest.length + 1)

/-- The significand and the decimal exponent of a number, in 64 bits: digits that do not
fit are dropped, and raise the exponent if they stand before the decimal point. -/
def decimalParts (n : Numeral) : Nat × Int :=
  let (whole, dropped) := takeDigits 0 n.whole
  let fraction := n.fraction.getD []
  let (significand, unused) := takeDigits whole fraction
  let exponent : Int := match n.exponent with
    | none => 0
    | some (negative, digits) =>
      if negative then -(Nat.ofDigitChars 10 digits 0) else Nat.ofDigitChars 10 digits 0
  (significand, dropped - (fraction.length - unused : Nat) + exponent)

/-- Whether a number lies in the range of floating point numbers. -/
def isFinite (n : Numeral) : Bool :=
  let (significand, exponent) := decimalParts n
  significand = 0 || exponent < 0
    || exponent ≤ 308
      && (significand.toUInt64.toFloat * Float.ofScientific 1 false exponent.toNat).isFinite

/-- Whether a token is a text if it is a literal, and finite if it is a number. -/
def Token.isProper : Token → Bool
  | .num n => isFinite n
  | .str text => text.isSome
  | _ => true

/-- The greatest number of arrays and objects open at once, with some open already. -/
def depth (opened deepest : Nat) : List Token → Nat
  | [] => deepest
  | .openArray :: rest => depth (opened + 1) (max deepest (opened + 1)) rest
  | .openObject :: rest => depth (opened + 1) (max deepest (opened + 1)) rest
  | .closeArray :: rest => depth (opened - 1) deepest rest
  | .closeObject :: rest => depth (opened - 1) deepest rest
  | _ :: rest => depth opened deepest rest

/-- The value of a text with nothing improper in it, nested no deeper than a limit. -/
def parseWithin? (limit : Nat) (text : String) : Option Json := do
  let tokens ← tokens? text
  if tokens.all Token.isProper && depth 0 0 tokens ≤ limit then ofTokens? tokens else none

end MediaClock.Json
