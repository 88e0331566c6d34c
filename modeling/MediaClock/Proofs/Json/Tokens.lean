import Mathlib.Data.List.Forall2
import MediaClock.Json.Lexer

/-!
# Tokens are read as they are written

Where a token may begin, the characters that it is written with are read as this token.  A literal
and a punctuation mark end by themselves.  A constant or a number is a word, which goes on until a
character comes that is part of no word, or the text ends.

This holds of every text in a literal, whatever has to be escaped in it, and of every number that
is well formed.
-/

namespace MediaClock

namespace Json

/-- That characters are digits, at least one. -/
def AreDigits (digits : List Char) : Prop := digits ≠ [] ∧ ∀ c ∈ digits, c.isDigit

end Json

/-- That a number is one of JSON: there are digits wherever there have to be digits, and no zero too
many in front. -/
structure Numeral.IsWellFormed (n : Numeral) : Prop where
  whole : Json.isWhole n.whole
  fraction : ∀ digits ∈ n.fraction, Json.AreDigits digits
  exponent : ∀ part ∈ n.exponent, Json.AreDigits part.2

namespace Json

namespace Token

/-- That a token is a word, so that its end does not show before the next character. -/
def IsWord : Token → Prop
  | .null | .bool _ | .num _ => True
  | _ => False

/-- That a token, if it is a number, is well formed. -/
def IsWellFormed : Token → Prop
  | .num n => n.IsWellFormed
  | _ => True

end Token

/-! ### Numbers -/

theorem isWhole_iff {digits : List Char} :
  isWhole digits ↔ AreDigits digits ∧ (digits.head? = some '0' → digits = ['0'])
  := by
  unfold isWhole AreDigits
  split
  · simp
  · simp
  · next rest other =>
    have other : rest ≠ [] := fun nil => other (by rw [nil])
    simp [other]
  · next nonempty _ different =>
    have head : digits.head? ≠ some '0' := by
      intro zero
      obtain ⟨rest, rfl⟩ := List.head?_eq_some_iff.mp zero
      exact different rest rfl
    have nonempty : digits ≠ [] := nonempty
    simp [head, nonempty]

/-- The digits of a positive number do not begin with zero. -/
theorem head?_toDigits_ne {n : Nat} (pos : 0 < n) :
  (Nat.toDigits 10 n).head? ≠ some '0'
  := by
  induction n using Nat.strongRecOn with
  | ind n ih =>
    by_cases small : n < 10
    · rw [Nat.toDigits_of_lt_base small]
      simp [Nat.pos_iff_ne_zero.mp pos]
    · rw [Nat.toDigits_of_base_le (by decide) (by omega), List.head?_append_of_ne_nil _
        Nat.toDigits_ne_nil]
      exact ih (n / 10) (by omega) (by omega)

theorem isWhole_toDigits (n : Nat) :
  isWhole (Nat.toDigits 10 n)
  := by
  apply isWhole_iff.mpr
  constructor
  · exact ⟨Nat.toDigits_ne_nil,
      fun c mem => Nat.isDigit_of_mem_toDigits (by decide) (by decide) mem⟩
  · intro zero
    cases n with
    | zero => rfl
    | succ n => exact absurd zero (head?_toDigits_ne n.succ_pos)

/-- The number of a natural number is well formed. -/
theorem isWellFormed_ofNat (n : Nat) :
  (Numeral.ofNat n).IsWellFormed
  where
  whole := isWhole_toDigits n
  fraction := by
    intro digits none
    cases none
  exponent := by
    intro part none
    cases none

/-- Digits are split from what follows them, if it does not begin with a digit. -/
theorem span_isDigit {digits rest : List Char} (all : ∀ c ∈ digits, c.isDigit)
    (stop : ∀ c ∈ rest.head?, ¬ c.isDigit) :
  (digits ++ rest).takeWhile Char.isDigit = digits
    ∧ (digits ++ rest).dropWhile Char.isDigit = rest
  := by
  rw [List.takeWhile_append_of_pos all, List.dropWhile_append_of_pos all]
  cases rest with
  | nil => simp
  | cons c rest =>
    have stop : ¬ c.isDigit := stop c rfl
    simp [stop]

/-- How the end of a number is written. -/
def exponentChars : Option (Bool × List Char) → List Char
  | none => []
  | some (negative, digits) => 'e' :: (if negative then ['-'] else []) ++ digits

/-- How the digits after the decimal point are written. -/
def fractionChars : Option (List Char) → List Char
  | none => []
  | some digits => '.' :: digits

theorem numeralChars_eq (n : Numeral) :
  numeralChars n = (if n.negative then ['-'] else [])
    ++ (n.whole ++ (fractionChars n.fraction ++ exponentChars n.exponent))
  := by
  obtain ⟨negative, whole, _ | digits, _ | ⟨sign, power⟩⟩ := n <;>
    simp [numeralChars, fractionChars, exponentChars]

theorem splitSign_of_isDigit {digits : List Char} (digit : ∀ c ∈ digits, c.isDigit) :
  splitSign digits = (false, digits)
  := by
  unfold splitSign
  split
  · exact absurd (digit '-' List.mem_cons_self) (by decide)
  · exact absurd (digit '+' List.mem_cons_self) (by decide)
  · rfl

theorem exponentOf?_exponentChars {exponent : Option (Bool × List Char)}
    (digits : ∀ part ∈ exponent, AreDigits part.2) :
  exponentOf? (exponentChars exponent) = some exponent
  := by
  cases exponent with
  | none => rfl
  | some part =>
    obtain ⟨negative, power⟩ := part
    obtain ⟨nonempty, all⟩ := digits _ rfl
    have sign : splitSign ((if negative then ['-'] else []) ++ power) = (negative, power) := by
      cases negative with
      | true => rfl
      | false => exact splitSign_of_isDigit all
    have all' : power.all Char.isDigit := List.all_eq_true.mpr all
    simp [exponentOf?, exponentChars, sign, nonempty, all']

theorem splitFraction?_fractionChars {fraction : Option (List Char)} {rest : List Char}
    (digits : ∀ part ∈ fraction, AreDigits part) (exponent : ∀ c ∈ rest.head?, c = 'e') :
  splitFraction? (fractionChars fraction ++ rest) = some (fraction, rest)
  := by
  cases fraction with
  | none =>
    cases rest with
    | nil => rfl
    | cons c rest =>
      obtain rfl : c = 'e' := exponent c rfl
      rfl
  | some part =>
    obtain ⟨nonempty, all⟩ := digits _ rfl
    have stop : ∀ c ∈ rest.head?, ¬ c.isDigit := by
      intro c mem
      rw [exponent c mem]
      decide
    obtain ⟨taken, left⟩ := span_isDigit all stop
    have nonempty' : part.isEmpty = false := List.isEmpty_eq_false_iff.mpr nonempty
    simp [fractionChars, splitFraction?, taken, left, nonempty']

theorem head?_exponentChars {exponent : Option (Bool × List Char)} :
  ∀ c ∈ (exponentChars exponent).head?, c = 'e'
  := by
  intro c mem
  cases exponent with
  | none => cases mem
  | some part => exact (Option.some.inj mem).symm

theorem unsigned?_numeralChars {n : Numeral} (wf : n.IsWellFormed) :
  unsigned? (n.whole ++ (fractionChars n.fraction ++ exponentChars n.exponent))
    = some { n with negative := false }
  := by
  obtain ⟨⟨-, all⟩, -⟩ := isWhole_iff.mp wf.whole
  have stop : ∀ c ∈ (fractionChars n.fraction ++ exponentChars n.exponent).head?, ¬ c.isDigit := by
    intro c mem
    cases fraction : n.fraction with
    | none =>
      rw [fraction] at mem
      rw [head?_exponentChars c mem]
      decide
    | some digits =>
      rw [fraction] at mem
      rw [← Option.some.inj mem]
      decide
  obtain ⟨taken, left⟩ := span_isDigit all stop
  have fraction : splitFraction? (fractionChars n.fraction ++ exponentChars n.exponent)
      = some (n.fraction, exponentChars n.exponent) :=
    splitFraction?_fractionChars wf.fraction head?_exponentChars
  have exponent := exponentOf?_exponentChars wf.exponent
  simp [unsigned?, taken, left, wf.whole, fraction, exponent]

/-- A number is read as it is written. -/
theorem numeral?_numeralChars {n : Numeral} (wf : n.IsWellFormed) :
  numeral? (numeralChars n) = some n
  := by
  have read := unsigned?_numeralChars wf
  rw [numeralChars_eq]
  obtain ⟨negative, whole, fraction, exponent⟩ := n
  cases negative with
  | true => simp [numeral?, read]
  | false =>
    obtain ⟨⟨nonempty, all⟩, -⟩ := isWhole_iff.mp wf.whole
    obtain ⟨c, digits, rfl⟩ := List.exists_cons_of_ne_nil nonempty
    have digit : c.isDigit := all c List.mem_cons_self
    simp only [Bool.false_eq_true, if_false, List.nil_append, List.cons_append]
    rw [numeral?]
    · exact read
    · rintro rest ⟨⟩
      exact absurd digit (by decide)

/-! ### Words -/

theorem isWordChar_of_areDigits {digits : List Char} (all : AreDigits digits) :
  ∀ c ∈ digits, isWordChar c
  := by
  intro c mem
  have digit : c.isDigit := all.2 c mem
  simp [isWordChar, Char.isAlphanum, digit]

/-- A number is written with characters of words. -/
theorem isWordChar_of_mem_numeralChars {n : Numeral} (wf : n.IsWellFormed) :
  ∀ c ∈ numeralChars n, isWordChar c
  := by
  have sign (negative : Bool) : ∀ c ∈ if negative then ['-'] else [], isWordChar c := by
    cases negative <;> exact List.all_eq_true.mp rfl
  rw [numeralChars_eq]
  simp only [List.forall_mem_append]
  refine ⟨sign n.negative, isWordChar_of_areDigits (isWhole_iff.mp wf.whole).1, ?_, ?_⟩
  · cases fraction : n.fraction with
    | none => exact List.forall_mem_nil _
    | some digits =>
      have all : AreDigits digits := wf.fraction digits fraction
      exact List.forall_mem_cons.mpr ⟨by decide, isWordChar_of_areDigits all⟩
  · cases exponent : n.exponent with
    | none => exact List.forall_mem_nil _
    | some part =>
      obtain ⟨negative, digits⟩ := part
      have all : AreDigits digits := wf.exponent (negative, digits) exponent
      exact List.forall_mem_cons.mpr ⟨by decide,
        List.forall_mem_append.mpr ⟨sign negative, isWordChar_of_areDigits all⟩⟩

namespace Token

variable {tok : Token}

/-- A word is written with characters of words, at least one. -/
theorem isWordChar_of_mem_chars (word : tok.IsWord) (wf : tok.IsWellFormed) :
  ∀ c ∈ tok.chars, isWordChar c
  := by
  cases tok with
  | null => exact List.all_eq_true.mp rfl
  | bool b => cases b <;> exact List.all_eq_true.mp rfl
  | num n => exact isWordChar_of_mem_numeralChars wf
  | _ => cases word

/-- A word is taken for the token that it spells. -/
theorem wordToken?_chars (word : tok.IsWord) (wf : tok.IsWellFormed) :
  wordToken? tok.chars = some tok
  := by
  cases tok with
  | null => rfl
  | bool b => cases b <;> rfl
  | num n =>
    have read := numeral?_numeralChars wf
    change wordToken? (numeralChars n) = some (.num n)
    have other {word : List Char} (unread : numeral? word = none) : numeralChars n ≠ word := by
      rintro rfl
      cases read.symm.trans unread
    rw [wordToken?, if_neg (other rfl), if_neg (other rfl), if_neg (other rfl), read]
    rfl
  | _ => cases word

theorem chars_ne_nil (wf : tok.IsWellFormed) :
  tok.chars ≠ []
  := by
  by_cases word : tok.IsWord
  · have read := wordToken?_chars word wf
    intro none
    rw [none] at read
    cases read
  · cases tok with
    | str text => cases text <;> exact List.cons_ne_nil _ _
    | null | bool | num => exact absurd trivial word
    | _ => exact List.cons_ne_nil _ _

/-- What is no word begins with a character that is part of no word. -/
theorem not_isWordChar_of_mem_head? (other : ¬ tok.IsWord) {c : Char} (mem : c ∈ tok.chars.head?) :
  ¬ isWordChar c
  := by
  cases tok with
  | str text => cases text <;> (cases mem; decide)
  | null | bool | num => exact absurd trivial other
  | _ => cases mem; decide

end Token

/-! ### Literals -/

/-- That a piece of a literal spells a character: it is the character, or the number of a control
character. -/
def Piece.Spells (c : Char) : Piece → Prop
  | .char d => d = c
  | .unit value => value = c.toNat ∧ value < 0x20

theorem spelled?_unit {value : Nat} (small : value < 0xd800) (pieces : List Piece) :
  spelled? (.unit value :: pieces) = (spelled? pieces).map (Char.ofNat value :: ·)
  := by
  have leading : isLeading value = false := by
    rw [isLeading, decide_eq_false (by omega), Bool.false_and]
  have trailing : isTrailing value = false := by
    rw [isTrailing, decide_eq_false (by omega), Bool.false_and]
  rcases pieces with _ | ⟨c | unit, pieces⟩ <;> simp [spelled?, leading, trailing]

/-- Pieces that spell characters one by one spell all of them. -/
theorem spelled?_of_spells {chars : List Char} {pieces : List Piece}
    (spells : List.Forall₂ Piece.Spells chars pieces) :
  spelled? pieces = some chars
  := by
  induction spells with
  | nil => rfl
  | @cons c piece chars pieces head _ ih =>
    cases piece with
    | char d =>
      obtain rfl : d = c := head
      simp [spelled?, ih]
    | unit value =>
      obtain ⟨rfl, small⟩ := head
      rw [spelled?_unit (by omega), ih, Char.ofNat_toNat]
      rfl

theorem hexValue?_digitChar :
  ∀ digit < 16, hexValue? (Nat.digitChar digit) = some digit
  := by decide

namespace Lexer

/-- An escape by number has the value of its four digits. -/
theorem foldlM_number (done : List Token) (seen : List Piece) {c₃ c₂ c₁ c₀ : Char}
    {n₃ n₂ n₁ n₀ : Nat} (h₃ : hexValue? c₃ = some n₃) (h₂ : hexValue? c₂ = some n₂)
    (h₁ : hexValue? c₁ = some n₁) (h₀ : hexValue? c₀ = some n₀) :
  ['\\', 'u', c₃, c₂, c₁, c₀].foldlM step ⟨done, .literal seen⟩
    = some ⟨done, .literal (.unit (16 * (16 * (16 * n₃ + n₂) + n₁) + n₀) :: seen)⟩
  := by simp [step, h₃, h₂, h₁, h₀]

/-- A character is read within a literal as it is written. -/
theorem foldlM_escapeChar (done : List Token) (seen : List Piece) (c : Char) :
  ∃ piece : Piece, piece.Spells c
    ∧ (escapeChar c).foldlM step ⟨done, .literal seen⟩ = some ⟨done, .literal (piece :: seen)⟩
  := by
  unfold escapeChar
  split_ifs with quote backslash newline ret tab backspace feed control
  · exact ⟨.char c, rfl, by rw [quote]; rfl⟩
  · exact ⟨.char c, rfl, by rw [backslash]; rfl⟩
  · exact ⟨.char c, rfl, by rw [newline]; rfl⟩
  · exact ⟨.char c, rfl, by rw [ret]; rfl⟩
  · exact ⟨.char c, rfl, by rw [tab]; rfl⟩
  · exact ⟨.char c, rfl, by rw [backspace]; rfl⟩
  · exact ⟨.char c, rfl, by rw [feed]; rfl⟩
  · -- The number of a control character needs only the last two of its four digits.
    have high := hexValue?_digitChar (c.toNat / 16) (by omega)
    have low := hexValue?_digitChar (c.toNat % 16) (by omega)
    refine ⟨_, ?_, foldlM_number done seen rfl rfl high low⟩
    constructor
    · omega
    · omega
  · exact ⟨.char c, rfl, by simp [step, quote, backslash, control]⟩

/-- A text is read within a literal as it is written. -/
theorem foldlM_escaped (done : List Token) (chars : List Char) (seen : List Piece) :
  ∃ pieces, List.Forall₂ Piece.Spells chars pieces
    ∧ (chars.flatMap escapeChar).foldlM step ⟨done, .literal seen⟩
      = some ⟨done, .literal (pieces.reverse ++ seen)⟩
  := by
  induction chars generalizing seen with
  | nil => exact ⟨[], .nil, rfl⟩
  | cons c chars ih =>
    obtain ⟨piece, spells, first⟩ := foldlM_escapeChar done seen c
    obtain ⟨pieces, others, rest⟩ := ih (piece :: seen)
    use piece :: pieces, .cons spells others
    rw [List.flatMap_cons, List.foldlM_append, first]
    simp [rest]

theorem foldlM_open (done : List Token) (chars : List Char) :
  ('"' :: chars).foldlM step ⟨done, .gap⟩ = chars.foldlM step ⟨done, .literal []⟩
  := rfl

theorem foldlM_close (done : List Token) (seen : List Piece) :
  [ '"'].foldlM step ⟨done, .literal seen⟩
    = some ⟨.str ((spelled? seen.reverse).map String.ofList) :: done, .gap⟩
  := rfl

/-- A literal is read as it is written. -/
theorem foldlM_literalChars (done : List Token) (text : Option String) :
  (literalChars text).foldlM step ⟨done, .gap⟩ = some ⟨.str text :: done, .gap⟩
  := by
  cases text with
  | none =>
    have d : hexValue? 'd' = some 13 := rfl
    have eight : hexValue? '8' = some 8 := rfl
    have zero : hexValue? '0' = some 0 := rfl
    have half : spelled? [.unit (16 * (16 * (16 * 13 + 8) + 0) + 0)] = none := by decide
    have chars : literalChars none = '"' :: (['\\', 'u', 'd', '8', '0', '0'] ++ ['"']) := rfl
    rw [chars, foldlM_open, List.foldlM_append, foldlM_number done [] d eight zero zero,
      Option.bind_eq_bind, Option.bind_some, foldlM_close, List.reverse_singleton, half,
      Option.map_none]
  | some text =>
    obtain ⟨pieces, spells, read⟩ := foldlM_escaped done text.toList []
    have chars : literalChars (some text) = '"' :: (text.toList.flatMap escapeChar ++ ['"']) := rfl
    rw [chars, foldlM_open, List.foldlM_append, read,
      Option.bind_eq_bind, Option.bind_some, foldlM_close, List.append_nil, List.reverse_reverse,
      spelled?_of_spells spells, Option.map_some, String.ofList_toList]

/-! ### Tokens -/

/-- A word goes on with characters of words. -/
theorem foldlM_word (done : List Token) {chars : List Char} (all : ∀ c ∈ chars, isWordChar c)
    (seen : List Char) :
  chars.foldlM step ⟨done, .word seen⟩ = some ⟨done, .word (chars.reverse ++ seen)⟩
  := by
  induction chars generalizing seen with
  | nil => rfl
  | cons c chars ih =>
    obtain ⟨first, others⟩ := List.forall_mem_cons.mp all
    simp [step, first, ih others]

theorem not_isWordChar_of_isGap {c : Char} (gap : isGap c) :
  ¬ isWordChar c
  := by
  simp only [isGap, Bool.or_eq_true, decide_eq_true_eq, or_assoc] at gap
  rcases gap with rfl | rfl | rfl | rfl <;> decide

theorem startToken_of_isWordChar (done : List Token) {c : Char} (word : isWordChar c) :
  startToken done c = some ⟨done, .word [c]⟩
  := by
  have gap : ¬ isGap c := fun gap => absurd word (not_isWordChar_of_isGap gap)
  have quote : c ≠ '"' := by
    rintro rfl
    exact absurd word (by decide)
  simp [startToken, gap, quote, word]

/-- Where a token may begin, a well-formed token is read as it is written.  Only after a word does
the reader wait for what follows. -/
theorem foldlM_chars (done : List Token) {tok : Token} (wf : tok.IsWellFormed) :
  ∃ l, tok.chars.foldlM step ⟨done, .gap⟩ = some l ∧ l.finish? = some (tok :: done).reverse
    ∧ (¬ tok.IsWord → l.reading = .gap)
  := by
  by_cases word : tok.IsWord
  · have all := Token.isWordChar_of_mem_chars word wf
    have read := Token.wordToken?_chars word wf
    obtain ⟨c, chars, same⟩ := List.exists_cons_of_ne_nil (Token.chars_ne_nil wf)
    rw [same] at all read
    obtain ⟨first, others⟩ := List.forall_mem_cons.mp all
    use ⟨done, .word (c :: chars).reverse⟩
    refine ⟨?_, ?_, fun other => absurd word other⟩
    · rw [same, List.foldlM_cons]
      simp [step, startToken_of_isWordChar done first, foldlM_word done others]
    · change (wordToken? (c :: chars).reverse.reverse).map _ = _
      rw [List.reverse_reverse, read]
      rfl
  · refine ⟨⟨tok :: done, .gap⟩, ?_, rfl, fun _ => rfl⟩
    cases tok with
    | str text => exact foldlM_literalChars done text
    | null | bool | num => exact absurd trivial word
    | _ => rfl

end Lexer

end Json

end MediaClock
