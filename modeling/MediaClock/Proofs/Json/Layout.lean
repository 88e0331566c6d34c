import Mathlib.Data.List.Chain
import MediaClock.Json.Parser
import MediaClock.Proofs.Json.Tokens

/-!
# White space between tokens

A JSON value is read from every text that it is written as with white space around its tokens.  No
white space is needed between two tokens of a value: of two tokens in a row one is always
punctuation, so that two words never run together.
-/

namespace MediaClock.Json

/-- That characters are tokens in a row, with white space around them. -/
inductive Layout : List Token → List Char → Prop
  | nil {gap : List Char} (blank : ∀ c ∈ gap, isGap c) :
    Layout [] gap
  | cons {tok : Token} {rest : List Token} {gap chars : List Char} (blank : ∀ c ∈ gap, isGap c)
      (layout : Layout rest chars) :
    Layout (tok :: rest) (gap ++ tok.chars ++ chars)

/-- That a text is a value, written with white space around its tokens. -/
def IsTextOf (j : Json) (text : String) : Prop := Layout j.tokens text.toList

/-- That all numbers in a value are well formed. -/
def IsWellFormed (j : Json) : Prop := ∀ tok ∈ j.tokens, tok.IsWellFormed

/-! ### Well-formed values -/

theorem isWellFormed_memberTokens {members : List (Option String × Json)}
    (wf : ∀ member ∈ members, member.2.IsWellFormed) :
  ∀ tok ∈ memberTokens members, tok.IsWellFormed
  := by
  match members with
  | [] => exact List.forall_mem_nil _
  | [(_, value)] =>
    have value := (List.forall_mem_cons.mp wf).1
    exact List.forall_mem_cons.mpr ⟨trivial, List.forall_mem_cons.mpr ⟨trivial, value⟩⟩
  | (_, value) :: next :: later =>
    obtain ⟨value, others⟩ := List.forall_mem_cons.mp wf
    have rest := isWellFormed_memberTokens others
    exact List.forall_mem_append.mpr
      ⟨List.forall_mem_cons.mpr ⟨trivial, List.forall_mem_cons.mpr ⟨trivial, value⟩⟩,
        List.forall_mem_cons.mpr ⟨trivial, rest⟩⟩

/-- An object is well formed if the values of its members are. -/
theorem isWellFormed_obj {members : List (Option String × Json)}
    (wf : ∀ member ∈ members, member.2.IsWellFormed) :
  (Json.obj members).IsWellFormed
  := by
  rw [IsWellFormed, tokens, List.forall_mem_append, List.forall_mem_cons, List.forall_mem_singleton]
  exact ⟨⟨trivial, isWellFormed_memberTokens wf⟩, trivial⟩

/-! ### Words are apart -/

/-- That of two tokens in a row at most one is a word. -/
def Apart (tok next : Token) : Prop := tok.IsWord → ¬ next.IsWord

theorem isChain_cons {behind : List Token} {mark : Token} (other : ¬ mark.IsWord)
    (hbehind : behind.IsChain Apart) :
  (mark :: behind).IsChain Apart
  := hbehind.cons fun _ _ word => absurd word other

/-- A mark keeps apart what stands before it and what follows. -/
theorem isChain_append_cons {before behind : List Token} {mark : Token} (other : ¬ mark.IsWord)
    (hbefore : before.IsChain Apart) (hbehind : behind.IsChain Apart) :
  (before ++ mark :: behind).IsChain Apart
  := by
  apply hbefore.append (isChain_cons other hbehind)
  rintro tok - next same word
  obtain rfl : mark = next := Option.some.inj same
  exact other

mutual

/-- Of two tokens of a value in a row at most one is a word. -/
theorem isChain_tokens (j : Json) :
  j.tokens.IsChain Apart
  := by
  match j with
  | .null | .bool _ | .num _ | .str _ => simp [tokens]
  | .arr items =>
    rw [tokens]
    exact isChain_cons id (isChain_append_cons id (isChain_itemTokens items) .nil)
  | .obj members =>
    rw [tokens]
    exact isChain_cons id (isChain_append_cons id (isChain_memberTokens members) .nil)

theorem isChain_itemTokens (items : List Json) :
  (itemTokens items).IsChain Apart
  := by
  match items with
  | [] => exact .nil
  | [item] => exact isChain_tokens item
  | item :: next :: later =>
    exact isChain_append_cons id (isChain_tokens item) (isChain_itemTokens (next :: later))

theorem isChain_memberTokens (members : List (Option String × Json)) :
  (memberTokens members).IsChain Apart
  := by
  match members with
  | [] => exact .nil
  | [(_, value)] => exact isChain_cons id (isChain_cons id (isChain_tokens value))
  | (key, value) :: next :: later =>
    have member : (Token.str key :: .colon :: value.tokens).IsChain Apart :=
      isChain_cons id (isChain_cons id (isChain_tokens value))
    exact isChain_append_cons id member (isChain_memberTokens (next :: later))

end

/-! ### Reading -/

namespace Lexer

theorem foldlM_gap (done : List Token) {gap : List Char} (blank : ∀ c ∈ gap, isGap c) :
  gap.foldlM step ⟨done, .gap⟩ = some ⟨done, .gap⟩
  := by
  induction gap with
  | nil => rfl
  | cons c gap ih =>
    obtain ⟨first, others⟩ := List.forall_mem_cons.mp blank
    simp [step, startToken, first, ih others]

/-- Where the text may end, a character that is part of no word is read as if the last token had
ended by itself. -/
theorem step_of_finish? {l : Lexer} {done : List Token} (ends : l.finish? = some done.reverse)
    {c : Char} (free : l.reading = .gap ∨ ¬ isWordChar c) :
  l.step c = step ⟨done, .gap⟩ c
  := by
  obtain ⟨done', reading⟩ := l
  cases reading with
  | gap =>
    obtain rfl : done' = done := List.reverse_injective (Option.some.inj ends)
    rfl
  | word seen =>
    have other : ¬ isWordChar c := free.resolve_left (by simp)
    obtain ⟨tok, spelled, same⟩ := Option.map_eq_some_iff.mp ends
    obtain rfl : tok :: done' = done := List.reverse_injective same
    simp [step, other, spelled]
  | _ => cases ends

theorem foldlM_of_finish? {l : Lexer} {done : List Token} (ends : l.finish? = some done.reverse)
    {chars : List Char} (nonempty : chars ≠ [])
    (free : l.reading = .gap ∨ ∀ c ∈ chars.head?, ¬ isWordChar c) :
  chars.foldlM step l = chars.foldlM step ⟨done, .gap⟩
  := by
  obtain ⟨c, chars, rfl⟩ := List.exists_cons_of_ne_nil nonempty
  have free : l.reading = .gap ∨ ¬ isWordChar c := free.imp_right fun other => other c rfl
  rw [List.foldlM_cons, List.foldlM_cons, step_of_finish? ends free]

/-- Tokens with white space around them are read one by one, from wherever the text may end. -/
theorem foldlM_layout {toks : List Token} {chars : List Char} (layout : Layout toks chars)
    (wf : ∀ tok ∈ toks, tok.IsWellFormed) (apart : toks.IsChain Apart) {l : Lexer}
    {done : List Token} (ends : l.finish? = some done.reverse)
    (free : l.reading = .gap ∨ ∀ tok ∈ toks.head?, ¬ tok.IsWord) :
  (chars.foldlM step l).bind finish? = some (done.reverse ++ toks)
  := by
  -- After each token the text may end again, with one token more than before.
  induction layout generalizing l done with
  | @nil gap blank =>
    rw [List.append_nil]
    cases gap with
    | nil => exact ends
    | cons c gap =>
      have other : ¬ isWordChar c := not_isWordChar_of_isGap (blank c List.mem_cons_self)
      rw [foldlM_of_finish? ends (List.cons_ne_nil c gap) (.inr _), foldlM_gap done blank]
      · rfl
      · rintro d ⟨⟩
        exact other
  | @cons tok rest gap chars blank _ ih =>
    obtain ⟨first, others⟩ := List.forall_mem_cons.mp wf
    obtain ⟨next, later⟩ := List.isChain_cons.mp apart
    obtain ⟨l', read, ends', free'⟩ := foldlM_chars done first
    have start : (gap ++ tok.chars).foldlM step l = some l' := by
      have nonempty : gap ++ tok.chars ≠ [] :=
        List.append_ne_nil_of_right_ne_nil gap (Token.chars_ne_nil first)
      rw [foldlM_of_finish? ends nonempty, List.foldlM_append, foldlM_gap done blank]
      · exact read
      · apply free.imp_right
        intro other c mem
        cases gap with
        | nil => exact Token.not_isWordChar_of_mem_head? (other tok rfl) mem
        | cons d gap =>
          obtain rfl : d = c := Option.some.inj mem
          exact not_isWordChar_of_isGap (blank d List.mem_cons_self)
    rw [List.foldlM_append, start, Option.bind_eq_bind, Option.bind_some, ih others later ends']
    · simp
    · by_cases word : tok.IsWord
      · exact .inr fun tok' mem => next tok' mem word
      · exact .inl (free' word)

end Lexer

/-- Every value is read from the texts that it is written as. -/
theorem parse?_eq_some {j : Json} (wf : j.IsWellFormed) {text : String} (h : j.IsTextOf text) :
  parse? text = some j
  := by
  have ends : ({} : Lexer).finish? = some [].reverse := rfl
  have read : tokens? text = some j.tokens :=
    Lexer.foldlM_layout h wf (isChain_tokens j) ends (.inl rfl)
  rw [parse?, read]
  exact ofTokens?_tokens j

/-- No white space is needed. -/
theorem isTextOf_text (j : Json) :
  j.IsTextOf j.text
  := by
  have layout (toks : List Token) : Layout toks (toks.flatMap Token.chars) := by
    induction toks with
    | nil => exact .nil (List.forall_mem_nil _)
    | cons tok toks ih => exact .cons (List.forall_mem_nil _) ih
  rw [IsTextOf, text, String.toList_ofList]
  exact layout j.tokens

end MediaClock.Json
