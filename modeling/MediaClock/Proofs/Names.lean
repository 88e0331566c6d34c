import Mathlib.Data.List.Forall2
import Mathlib.Data.List.Nodup
import MediaClock.Media
import MediaClock.Log
import MediaClock.Timebase

/-!
# Names that tell values apart

A type whose values are all listed, each under a name of its own, can be read back from its names:
a text is read as a value exactly when it is the name of the value.  If the names are in lower case,
a text in either case is read, and nothing else.
-/

namespace MediaClock

/-- A type of named values in which no value is missing from the list, and no name is given
twice. -/
class LawfulNamed (α : Type) [Named α] : Prop where
  mem_values : ∀ a : α, a ∈ (Named.values : List α)
  nodup_names : ((Named.values : List α).map name).Nodup

instance : LawfulNamed MediaType where
  mem_values a := by cases a <;> decide
  nodup_names := by decide

instance : LawfulNamed BitstreamFormat where
  mem_values a := by cases a <;> decide
  nodup_names := by decide

instance : LawfulNamed PacketType where
  mem_values a := by cases a <;> decide
  nodup_names := by decide

instance : LawfulNamed SourceType where
  mem_values a := by cases a <;> decide
  nodup_names := by decide

instance : LawfulNamed Conversion where
  mem_values a := by cases a <;> decide
  nodup_names := by decide

instance : LawfulNamed LogLevel where
  mem_values a := by cases a <;> decide
  nodup_names := by decide

section Named

variable {α : Type} [Named α] [LawfulNamed α]

/-- The name of a value is no other value's. -/
theorem name_inj {a b : α} :
  name a = name b ↔ a = b
  := by
  constructor
  · apply List.inj_on_of_nodup_map LawfulNamed.nodup_names
    · apply LawfulNamed.mem_values
    · apply LawfulNamed.mem_values
  · rintro rfl
    rfl

/-- A text is read as a value exactly when it is the name of the value. -/
theorem ofName?_eq_some_iff {text : String} {a : α} :
  Named.ofName? text = some a ↔ text = name a
  := by
  constructor
  · intro found
    have named := List.find?_some found
    exact (eq_of_beq named).symm
  · rintro rfl
    apply Named.ofName?_name (LawfulNamed.mem_values a)
    intro b _
    exact name_inj.mp

end Named

/-! ### Upper and lower case -/

/-- That a character is the same as another one but for its case, which only the letters of ASCII
have. -/
def SameLetter (c d : Char) : Prop :=
  c = d ∨ (c.isUpper ∧ d.toNat = c.toNat + 32) ∨ (d.isUpper ∧ c.toNat = d.toNat + 32)

/-- That a text is spelled like another one but for the case of letters. -/
def SpelledAlike (text other : String) : Prop := List.Forall₂ SameLetter text.toList other.toList

/-- That a text has no letter in upper case. -/
def IsLower (text : String) : Prop := ∀ c ∈ text.toList, ¬ c.isUpper

instance (text : String) : Decidable (IsLower text) :=
  List.decidableBAll (fun c : Char => ¬ c.isUpper = true) text.toList

theorem spelledAlike_refl (text : String) :
  SpelledAlike text text
  := List.forall₂_same.mpr fun _ _ => .inl rfl

theorem isUpper_iff_val {c : Char} :
  c.isUpper ↔ c.val ≥ 'A'.val ∧ c.val ≤ 'Z'.val
  := decide_eq_true_iff

theorem isUpper_iff {c : Char} :
  c.isUpper ↔ 65 ≤ c.toNat ∧ c.toNat ≤ 90
  := by
  rw [isUpper_iff_val, ge_iff_le, UInt32.le_iff_toNat_le, UInt32.le_iff_toNat_le]
  rfl

theorem toLower_of_not_isUpper {c : Char} (lower : ¬ c.isUpper) :
  c.toLower = c
  := dif_neg fun upper => lower (isUpper_iff_val.mpr upper)

theorem toNat_toLower_of_isUpper {c : Char} (upper : c.isUpper) :
  c.toLower.toNat = c.toNat + 32
  := by
  have bounds := isUpper_iff.mp upper
  have shifted : c.toLower.val = c.val + 32 :=
    congrArg Char.val (dif_pos (isUpper_iff_val.mp upper))
  change c.toLower.val.toNat = c.val.toNat + 32
  rw [shifted, UInt32.toNat_add]
  apply Nat.mod_eq_of_lt
  change c.toNat + 32 < 4294967296
  omega

/-- A character in lower case is what the characters that are the same letter become in lower
case. -/
theorem toLower_eq_iff_sameLetter {c d : Char} (lower : ¬ d.isUpper) :
  c.toLower = d ↔ SameLetter c d
  := by
  by_cases upper : c.isUpper
  · have shifted := toNat_toLower_of_isUpper upper
    constructor
    · rintro rfl
      exact .inr (.inl ⟨upper, shifted⟩)
    · rintro (rfl | ⟨-, shift⟩ | ⟨upper', -⟩)
      · exact absurd upper lower
      · exact Char.toNat_inj.mp (shifted.trans shift.symm)
      · exact absurd upper' lower
  · rw [toLower_of_not_isUpper upper]
    constructor
    · exact .inl
    · rintro (same | ⟨upper', -⟩ | ⟨upper', -⟩)
      · exact same
      · exact absurd upper' upper
      · exact absurd upper' lower

/-- A text in lower case is what the texts that are spelled like it become in lower case. -/
theorem toLower_eq_iff {text other : String} (lower : IsLower other) :
  text.toLower = other ↔ SpelledAlike text other
  := by
  have letters {c d : Char} (mem : (c, d) ∈ text.toList.zip other.toList) :
      c.toLower = d ↔ SameLetter c d :=
    toLower_eq_iff_sameLetter (lower d (List.of_mem_zip mem).2)
  have lowered : text.toLower.toList = text.toList.map Char.toLower := String.toList_map
  rw [← String.toList_inj, lowered, ← List.forall₂_eq_eq_eq, List.forall₂_map_left_iff,
    SpelledAlike, List.forall₂_iff_zip, List.forall₂_iff_zip]
  apply and_congr_right
  intro _
  exact forall_congr' fun c => forall_congr' fun d => forall_congr' letters

end MediaClock
