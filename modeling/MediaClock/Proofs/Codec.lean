import MediaClock.Codec
import MediaClock.Proofs.Json.Layout
import MediaClock.Proofs.Json.Records

/-!
# Decoding undoes encoding

For each type with a form in JSON it is told here which JSON values are decoded, and as what: a
`Codec.Grammar`.  What a value is encoded as is one of its forms, so what is written is read back,
and so is whatever was read in another form and is written again.
-/

namespace MediaClock

/-- The forms that the values of a type have in JSON: what is decoded as a value is exactly what is
a form of it, and a value is encoded as a form of it, in which all numbers are well formed. -/
class Codec.Grammar (α : Type) [Codec α] where
  /-- That a JSON value is a form of a value. -/
  IsForm : α → Json → Prop
  decode?_eq_some_iff : ∀ {j : Json} {a : α}, decode? j = some a ↔ IsForm a j
  isForm_encode : ∀ a : α, IsForm a (encode a)
  isWellFormed_encode : ∀ a : α, (encode a).IsWellFormed

namespace Codec

/-! ### Numbers -/

theorem int?_eq_some_natCast_iff {m : Numeral} {n : Nat} :
  m.int? = some (n : Int) ↔ ∃ digits, m = { whole := digits } ∧ Nat.ofDigitChars 10 digits 0 = n
  := by
  constructor
  · obtain ⟨negative, digits, fraction, exponent⟩ := m
    intro denotes
    rw [Numeral.int?] at denotes
    split_ifs at denotes with part sign zero
    · have value : -((Nat.ofDigitChars 10 digits 0 : Nat) : Int) = n := Option.some.inj denotes
      have zero : ¬ Nat.ofDigitChars 10 digits 0 = 0 := zero
      omega
    · obtain rfl : negative = false := by simpa using sign
      obtain ⟨rfl, rfl⟩ : fraction = none ∧ exponent = none := by simpa using part
      exact ⟨digits, rfl, Int.ofNat.inj (Option.some.inj denotes)⟩
  · rintro ⟨digits, rfl, rfl⟩
    rfl

theorem natBelow?_eq_some_iff {bound n : Nat} {j : Json} :
  j.natBelow? bound = some n ↔ j.int? = some (n : Int) ∧ n < bound
  := by
  rw [Json.natBelow?, Option.bind_eq_bind, Option.bind_eq_some_iff]
  constructor
  · rintro ⟨i, denotes, read⟩
    split at read
    · next within =>
      obtain rfl := Option.some.inj read
      rw [denotes, Int.toNat_of_nonneg within.1]
      exact ⟨rfl, by omega⟩
    · cases read
  · rintro ⟨denotes, within⟩
    exact ⟨n, denotes, by rw [if_pos (by omega), Int.toNat_natCast]⟩

/-- A number of 32 bits is decoded from what denotes it. -/
theorem decode?_eq_some_iff_int? {j : Json} {n : UInt32} :
  decode? j = some n ↔ j.int? = some (n.toNat : Int)
  := by
  change (j.natBelow? UInt32.size).map Nat.toUInt32 = some n ↔ _
  rw [Option.map_eq_some_iff]
  constructor
  · rintro ⟨m, read, rfl⟩
    obtain ⟨denotes, within⟩ := natBelow?_eq_some_iff.mp read
    rw [denotes, Nat.toUInt32_eq, UInt32.toNat_ofNat_of_lt' within]
  · intro denotes
    exact ⟨n.toNat, natBelow?_eq_some_iff.mpr ⟨denotes, n.toNat_lt_size⟩, UInt32.ofNat_toNat⟩

namespace Grammar

variable {α β γ : Type}

/-! ### Simple values -/

instance : Grammar Bool where
  IsForm b j := j = .bool b
  decode?_eq_some_iff {j b} := by
    cases j with
    | bool c => simp [decode?, Json.bool?]
    | _ => simp [decode?, Json.bool?]
  isForm_encode b := rfl
  isWellFormed_encode b := by simp [Json.IsWellFormed, encode, Json.tokens, Json.Token.IsWellFormed]

theorem isWellFormed_ofText (text : String) :
  (Json.ofText text).IsWellFormed
  := by simp [Json.IsWellFormed, Json.ofText, Json.tokens, Json.Token.IsWellFormed]

/-- A text has one form, whatever characters are in it. -/
instance : Grammar String where
  IsForm text j := j = .ofText text
  decode?_eq_some_iff {j text} := by
    cases j with
    | str content => simp [decode?, Json.text?, Json.ofText]
    | _ => simp [decode?, Json.text?, Json.ofText]
  isForm_encode text := rfl
  isWellFormed_encode := isWellFormed_ofText

/-- A number of 32 bits has the form of its digits, with neither sign nor fraction nor exponent. -/
instance : Grammar UInt32 where
  IsForm n j := ∃ digits, j = .num { whole := digits } ∧ Nat.ofDigitChars 10 digits 0 = n.toNat
  decode?_eq_some_iff {j n} := by
    rw [decode?_eq_some_iff_int?]
    cases j with
    | num m => simpa [Json.int?] using int?_eq_some_natCast_iff
    | _ => simp [Json.int?]
  isForm_encode n := ⟨Nat.toDigits 10 n.toNat, rfl, Nat.ofDigitChars_ten_toDigits⟩
  isWellFormed_encode n := by
    intro tok mem
    obtain rfl := List.mem_singleton.mp mem
    exact Json.isWellFormed_ofNat n.toNat

/-- The grammar of a type whose values have the forms of the values of another one. -/
@[reducible] def ofEquiv [Codec α] [Grammar α] [Codec β] (e : β ≃ α)
    (encode_eq : ∀ b : β, encode b = encode (e b))
    (decode?_eq : ∀ j : Json, (decode? j : Option β) = (decode? j).map e.symm) :
  Grammar β
  where
  IsForm b j := IsForm (e b) j
  decode?_eq_some_iff {j b} := by
    rw [decode?_eq, Option.map_eq_some_iff]
    simp only [decode?_eq_some_iff, Equiv.symm_apply_eq, exists_eq_right]
  isForm_encode b := by
    rw [encode_eq]
    exact isForm_encode (e b)
  isWellFormed_encode b := by
    rw [encode_eq]
    exact isWellFormed_encode (e b)

/-- An identifier has the forms of its number. -/
instance : Grammar StreamId :=
  ofEquiv { toFun := StreamId.val, invFun := StreamId.mk } (fun _ => rfl) (fun _ => rfl)

/-- An identifier has the forms of its number. -/
instance : Grammar TrackId :=
  ofEquiv { toFun := TrackId.val, invFun := TrackId.mk } (fun _ => rfl) (fun _ => rfl)

/-- A named value has the forms of a tag. -/
@[reducible] def ofNamed (α : Type) [Named α] [LawfulNamed α] : @Grammar α (.ofNamed α) :=
  let _ : Codec α := .ofNamed α
  { IsForm := Json.IsTag
    decode?_eq_some_iff := Json.tag?_eq_some_iff
    isForm_encode := fun _ => .name
    isWellFormed_encode := fun a => isWellFormed_ofText (name a) }

instance : Grammar MediaType := .ofNamed MediaType

instance : Grammar BitstreamFormat := .ofNamed BitstreamFormat

instance : Grammar PacketType := .ofNamed PacketType

instance : Grammar SourceType := .ofNamed SourceType

instance : Grammar Conversion := .ofNamed Conversion

/-! ### Records of two fields -/

/-- The values of two fields, if both are there. -/
def both? : List (Option Json) → Option (Json × Json)
  | [some x, some y] => some (x, y)
  | _ => none

theorem both?_eq_some_iff {values : List (Option Json)} {x y : Json} :
  both? values = some (x, y) ↔ values = [some x, some y]
  := by
  unfold both?
  split <;> simp_all

section Record

variable [Codec α] [Codec β]

/-- What is made of the values of two fields. -/
def decodeBoth? (keys : String × String) (make : α → β → γ) (j : Json) : Option γ := do
  let values ← (j.fields? [keys.1, keys.2]).bind both?
  return make (← decode? values.1) (← decode? values.2)

variable [Grammar α] [Grammar β]

/-- That a value is a record with two fields, whose values are forms of given values. -/
def IsBoth (keys : String × String) (a : α) (b : β) (j : Json) : Prop :=
  ∃ x y, IsForm a x ∧ IsForm b y ∧ j.IsRecord [(keys.1, x), (keys.2, y)]

theorem decodeBoth?_eq_some_iff {keys : String × String} (ne : keys.1 ≠ keys.2)
    {make : α → β → γ} {j : Json} {c : γ} :
  decodeBoth? keys make j = some c ↔ ∃ a b, make a b = c ∧ IsBoth keys a b j
  := by
  have fields {x y : Json} : (j.fields? [keys.1, keys.2]).bind both? = some (x, y)
      ↔ j.IsRecord [(keys.1, x), (keys.2, y)] := by
    have nodup : ([(keys.1, x), (keys.2, y)].map Prod.fst).Nodup := by simpa using ne
    rw [← Json.fields?_eq_some_iff nodup, Option.bind_eq_some_iff]
    simp only [both?_eq_some_iff, exists_eq_right]
    rfl
  simp only [decodeBoth?, Option.bind_eq_bind, Option.bind_eq_some_iff, Option.pure_def,
    Option.some_inj, Prod.exists, fields, decode?_eq_some_iff]
  constructor
  · rintro ⟨x, y, record, a, formA, b, formB, rfl⟩
    exact ⟨a, b, rfl, x, y, formA, formB, record⟩
  · rintro ⟨a, b, rfl, x, y, formA, formB, record⟩
    exact ⟨x, y, record, a, formA, b, formB, rfl⟩

/-- The grammar of a record of two fields, made of two values. -/
@[reducible] def ofBoth [Codec γ] (keys : String × String) (ne : keys.1 ≠ keys.2)
    (parts : γ ≃ α × β)
    (encode_eq : ∀ c : γ,
      encode c = .ofFields [(keys.1, encode (parts c).1), (keys.2, encode (parts c).2)])
    (decode?_eq : ∀ j : Json, decode? j = decodeBoth? keys (fun a b => parts.symm (a, b)) j) :
  Grammar γ
  where
  IsForm c j := IsBoth keys (parts c).1 (parts c).2 j
  decode?_eq_some_iff {j c} := by
    rw [decode?_eq, decodeBoth?_eq_some_iff ne]
    constructor
    · rintro ⟨a, b, rfl, form⟩
      simpa using form
    · intro form
      exact ⟨_, _, parts.symm_apply_apply c, form⟩
  isForm_encode c := by
    rw [encode_eq]
    exact ⟨_, _, isForm_encode (parts c).1, isForm_encode (parts c).2, Json.isRecord_ofFields _⟩
  isWellFormed_encode c := by
    rw [encode_eq]
    apply Json.isWellFormed_obj
    simp [isWellFormed_encode]

end Record

theorem bind_both? {read : Option (List (Option Json))} {f : List (Option Json) → Option γ}
    {g : Json × Json → Option γ} (same : ∀ values, f values = (both? values).bind g) :
  read.bind f = (read.bind both?).bind g
  := by
  rw [Option.bind_assoc]
  exact Option.bind_congr fun values _ => same values

instance : Grammar Timeline.Settings :=
  ofBoth ("conversion", "clear_wraparound_on_stop") (by decide)
    { toFun := fun s => (s.conversion, s.clearWraps)
      invFun := fun parts => ⟨parts.1, parts.2⟩ }
    (fun _ => rfl)
    (fun _ => bind_both? fun values => by
      rcases values with _ | ⟨_ | x, _ | ⟨_ | y, _ | ⟨z, rest⟩⟩⟩ <;> rfl)

instance : Grammar LogSettings :=
  ofBoth ("log_level", "json_logs") (by decide)
    { toFun := fun s => (s.level, s.json)
      invFun := fun parts => ⟨parts.1, parts.2⟩ }
    (fun _ => rfl)
    (fun _ => bind_both? fun values => by
      rcases values with _ | ⟨_ | x, _ | ⟨_ | y, _ | ⟨z, rest⟩⟩⟩ <;> rfl)

instance : Grammar Settings :=
  ofBoth ("timestamp", "observability") (by decide)
    { toFun := fun s => (s.clock, s.logging)
      invFun := fun parts => ⟨parts.1, parts.2⟩ }
    (fun _ => rfl)
    (fun _ => bind_both? fun values => by
      rcases values with _ | ⟨_ | x, _ | ⟨_ | y, _ | ⟨z, rest⟩⟩⟩ <;> rfl)

end Grammar

/-! ### Texts -/

section Texts

variable {α : Type} [Codec α] [Grammar α]

/-- A value is read from the texts of its forms, with white space around their tokens. -/
theorem read?_eq_some {a : α} {j : Json} (form : Grammar.IsForm a j) (wf : j.IsWellFormed)
    {text : String} (written : j.IsTextOf text) :
  read? text = some a
  := by
  rw [read?, Json.parse?_eq_some wf written]
  exact Grammar.decode?_eq_some_iff.mpr form

/-- A text is read as a value exactly when its JSON value is a form of the value. -/
theorem read?_eq_some_iff {text : String} {a : α} :
  read? text = some a ↔ ∃ j, Json.parse? text = some j ∧ Grammar.IsForm a j
  := by simp only [read?, Option.bind_eq_some_iff, Grammar.decode?_eq_some_iff]

/-- What is written is read back. -/
theorem read?_write (a : α) :
  read? (write a) = some a
  := read?_eq_some (Grammar.isForm_encode a) (Grammar.isWellFormed_encode a)
    (Json.isTextOf_text (encode a))

end Texts

/-- That decoding undoes encoding.  What is written is read back.  A text is read exactly when its
JSON value is a form, so every form is read, with any white space around its tokens.  What was read
in whatever form and is written again is read back. -/
structure IsFaithful (α : Type) [Codec α] [Grammar α] : Prop where
  read_write : ∀ a : α, read? (write a) = some a
  read_iff : ∀ (text : String) (a : α),
    read? text = some a ↔ ∃ j, Json.parse? text = some j ∧ Grammar.IsForm a j
  read_form : ∀ (a : α) (j : Json) (text : String),
    Grammar.IsForm a j → j.IsWellFormed → j.IsTextOf text → read? text = some a
  read_rewritten : ∀ (text : String) (a : α), read? text = some a → read? (write a) = some a

theorem isFaithful (α : Type) [Codec α] [Grammar α] :
  IsFaithful α
  where
  read_write := read?_write
  read_iff _ _ := read?_eq_some_iff
  read_form _ _ _ form wf written := read?_eq_some form wf written
  read_rewritten _ a _ := read?_write a

/-- The members may stand in another order and among others, and a tag may be an object. -/
example :
  Codec.read? ("\t\x7b \"more\":[null], \"clear_wraparound_on_stop\" :true,"
      ++ "\"conversion\":\x7b\"exact\":null\x7d \x7d\n")
    = some ({ conversion := .exact, clearWraps := true } : Timeline.Settings)
  := by decide

/-- Decoding undoes encoding for all settings and those of a part, whatever text the level of the
log is, for the media vocabulary, and for every identifier. -/
theorem decoding_undoes_encoding :
  IsFaithful Settings ∧ IsFaithful Timeline.Settings ∧ IsFaithful LogSettings
    ∧ IsFaithful Conversion ∧ IsFaithful MediaType ∧ IsFaithful BitstreamFormat
    ∧ IsFaithful PacketType ∧ IsFaithful SourceType ∧ IsFaithful StreamId ∧ IsFaithful TrackId
  := ⟨isFaithful _, isFaithful _, isFaithful _, isFaithful _, isFaithful _, isFaithful _,
    isFaithful _, isFaithful _, isFaithful _, isFaithful _⟩

end Codec

end MediaClock
