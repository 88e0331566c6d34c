import Mathlib.Data.List.Perm.Basic
import MediaClock.Json.Record
import MediaClock.Proofs.Names

/-!
# The forms of records and tags

Which JSON values are read as a record with given fields, and which as a tag: exactly those of the
forms that are listed here.
-/

namespace MediaClock.Json

/-! ### Records -/

/-- The members that fields are. -/
def membersOf (fields : List (String × Json)) : List (Option String × Json) :=
  fields.map fun field => (some field.1, field.2)

/-- That a value is a record with given fields: an object with a member for each of them, in any
order and among members whose keys are texts but no fields, or the array of their values. -/
inductive IsRecord (fields : List (String × Json)) : Json → Prop
  | obj {members others : List (Option String × Json)}
      (foreign : ∀ member ∈ others, ∃ key, member.1 = some key ∧ key ∉ fields.map Prod.fst)
      (order : members.Perm (membersOf fields ++ others)) :
    IsRecord fields (.obj members)
  | arr : IsRecord fields (.arr (fields.map Prod.snd))

/-- An object with fields alone is a record. -/
theorem isRecord_ofFields (fields : List (String × Json)) :
  IsRecord fields (.ofFields fields)
  := .obj (List.forall_mem_nil _) (by rw [List.append_nil]; rfl)

theorem slot?_eq_some_some_iff {members : List (Option String × Json)} {key : String}
    {value : Json} :
  slot? members key = some (some value) ↔ valuesOf members key = [value]
  := by
  rw [slot?]
  split <;> simp_all

theorem mapM_slot?_eq_some_iff {members : List (Option String × Json)}
    {fields : List (String × Json)} :
  (fields.map Prod.fst).mapM (slot? members) = some (fields.map fun field => some field.2)
    ↔ ∀ field ∈ fields, valuesOf members field.1 = [field.2]
  := by
  induction fields with
  | nil => simp
  | cons field fields ih =>
    rw [List.forall_mem_cons, ← ih, ← slot?_eq_some_some_iff]
    simp [Option.bind_eq_some_iff]

theorem valuesOf_append (members others : List (Option String × Json)) (key : String) :
  valuesOf (members ++ others) key = valuesOf members key ++ valuesOf others key
  := by simp [valuesOf]

theorem valuesOf_perm {members others : List (Option String × Json)} (order : members.Perm others)
    (key : String) :
  (valuesOf members key).Perm (valuesOf others key)
  := (order.filter _).map _

theorem valuesOf_eq_nil {members : List (Option String × Json)} {key : String}
    (absent : ∀ member ∈ members, member.1 ≠ some key) :
  valuesOf members key = []
  := by simpa [valuesOf] using absent

theorem valuesOf_cons_of_eq (members : List (Option String × Json)) (key : String) (value : Json) :
  valuesOf ((some key, value) :: members) key = value :: valuesOf members key
  := by simp [valuesOf]

theorem valuesOf_cons_of_ne (members : List (Option String × Json)) {key other : String}
    (ne : other ≠ key) (value : Json) :
  valuesOf ((some other, value) :: members) key = valuesOf members key
  := by simp [valuesOf, ne]

theorem exists_of_mem_membersOf {fields : List (String × Json)} {member : Option String × Json}
    (mem : member ∈ membersOf fields) :
  ∃ key ∈ fields.map Prod.fst, member.1 = some key
  := by
  obtain ⟨field, mem', rfl⟩ := List.mem_map.mp mem
  exact ⟨field.1, List.mem_map_of_mem mem', rfl⟩

/-- The one value of a field among the members that fields are. -/
theorem valuesOf_membersOf {fields : List (String × Json)}
    (nodup : (fields.map Prod.fst).Nodup) :
  ∀ field ∈ fields, valuesOf (membersOf fields) field.1 = [field.2]
  := by
  induction fields with
  | nil => exact List.forall_mem_nil _
  | cons first fields ih =>
    obtain ⟨key, value⟩ := first
    obtain ⟨new, nodup⟩ := List.nodup_cons.mp nodup
    rw [List.forall_mem_cons]
    constructor
    · have absent : ∀ member ∈ membersOf fields, member.1 ≠ some key := by
        intro member mem same
        obtain ⟨key', mem, same'⟩ := exists_of_mem_membersOf mem
        obtain rfl : key = key' := Option.some.inj (same.symm.trans same')
        exact new mem
      change valuesOf ((some key, value) :: membersOf fields) key = [value]
      rw [valuesOf_cons_of_eq, valuesOf_eq_nil absent]
    · intro field mem
      have ne : key ≠ field.1 := (ne_of_mem_of_not_mem (List.mem_map_of_mem mem) new).symm
      change valuesOf ((some key, value) :: membersOf fields) field.1 = [field.2]
      rw [valuesOf_cons_of_ne _ ne, ih nodup field mem]

/-- The members with a key that has one value. -/
theorem filter_eq_of_valuesOf {members : List (Option String × Json)} {key : String}
    {value : Json} (one : valuesOf members key = [value]) :
  members.filter (fun member => member.1 = some key) = [(some key, value)]
  := by
  obtain ⟨member, same, rfl⟩ := List.map_eq_singleton_iff.mp one
  have mem : member ∈ members.filter fun member => member.1 = some key := by
    rw [same]
    exact List.mem_singleton_self member
  have named : member.1 = some key := by simpa using (List.mem_filter.mp mem).2
  rw [same, ← named]

/-- A member with a key that has one value stands before the members with other keys. -/
theorem perm_cons_of_valuesOf {members : List (Option String × Json)} {key : String}
    {value : Json} (one : valuesOf members key = [value]) :
  members.Perm ((some key, value) :: members.filter fun member => ! (member.1 = some key))
  := by
  have split := List.filter_append_perm (fun member => decide (member.1 = some key)) members
  rw [filter_eq_of_valuesOf one] at split
  exact split.symm

/-- Members among which every field has one value are the fields and others. -/
theorem exists_perm_membersOf {members : List (Option String × Json)}
    {fields : List (String × Json)} (texts : ∀ member ∈ members, ∃ key, member.1 = some key)
    (nodup : (fields.map Prod.fst).Nodup)
    (one : ∀ field ∈ fields, valuesOf members field.1 = [field.2]) :
  ∃ others : List (Option String × Json),
    (∀ member ∈ others, ∃ key, member.1 = some key ∧ key ∉ fields.map Prod.fst)
      ∧ members.Perm (membersOf fields ++ others)
  := by
  -- The members of the fields are taken out one by one, and the rest goes on to the next field.
  induction fields generalizing members with
  | nil => exact ⟨members, by simpa using texts, .refl members⟩
  | cons first fields ih =>
    obtain ⟨key, value⟩ := first
    obtain ⟨new, nodup⟩ := List.nodup_cons.mp nodup
    obtain ⟨head, tail⟩ := List.forall_mem_cons.mp one
    have order := perm_cons_of_valuesOf head
    set rest := members.filter fun member => ! (member.1 = some key) with def_rest
    have texts' : ∀ member ∈ rest, ∃ key, member.1 = some key :=
      fun member mem => texts member (List.mem_of_mem_filter mem)
    have one' : ∀ field ∈ fields, valuesOf rest field.1 = [field.2] := by
      intro field mem
      have ne : key ≠ field.1 := (ne_of_mem_of_not_mem (List.mem_map_of_mem mem) new).symm
      have same := valuesOf_perm order field.1
      rw [tail field mem, valuesOf_cons_of_ne rest ne value] at same
      exact List.perm_singleton.mp same.symm
    obtain ⟨others, foreign, order'⟩ := ih texts' nodup one'
    use others
    constructor
    · intro member mem
      obtain ⟨other, named, unknown⟩ := foreign member mem
      have ne : other ≠ key := by
        have mem : member ∈ rest := order'.mem_iff.mpr (List.mem_append_right _ mem)
        rintro rfl
        simp [def_rest, named] at mem
      exact ⟨other, named, by simp [ne, unknown]⟩
    · exact order.trans (order'.cons _)

theorem fields?_obj_iff {fields : List (String × Json)} (nodup : (fields.map Prod.fst).Nodup)
    {members : List (Option String × Json)} :
  fields? (fields.map Prod.fst) (.obj members) = some (fields.map fun field => some field.2)
    ↔ IsRecord fields (.obj members)
  := by
  rw [fields?, Option.ite_none_right_eq_some, mapM_slot?_eq_some_iff, List.all_eq_true]
  simp only [Option.isSome_iff_exists]
  constructor
  · rintro ⟨texts, one⟩
    obtain ⟨others, foreign, order⟩ := exists_perm_membersOf texts nodup one
    exact .obj foreign order
  · rintro (@⟨_, others, foreign, order⟩ | _)
    constructor
    · intro member mem
      rcases List.mem_append.mp (order.mem_iff.mp mem) with mem | mem
      · obtain ⟨key, -, named⟩ := exists_of_mem_membersOf mem
        exact ⟨key, named⟩
      · obtain ⟨key, named, -⟩ := foreign member mem
        exact ⟨key, named⟩
    · intro field mem
      have absent : ∀ member ∈ others, member.1 ≠ some field.1 := by
        intro member mem' same
        obtain ⟨key, named, unknown⟩ := foreign member mem'
        obtain rfl : key = field.1 := Option.some.inj (named.symm.trans same)
        exact unknown (List.mem_map_of_mem mem)
      have values := valuesOf_perm order field.1
      rw [valuesOf_append, valuesOf_membersOf nodup field mem, valuesOf_eq_nil absent] at values
      exact List.perm_singleton.mp values

theorem fields?_arr_iff {fields : List (String × Json)} {items : List Json} :
  fields? (fields.map Prod.fst) (.arr items) = some (fields.map fun field => some field.2)
    ↔ IsRecord fields (.arr items)
  := by
  rw [fields?, Option.ite_none_right_eq_some, Option.some_inj]
  constructor
  · rintro ⟨-, same⟩
    have full : (fields.map Prod.fst).length - items.length = 0 := by
      by_contra missing
      have mem : none ∈ fields.map fun field => some field.2 := by
        rw [← same]
        exact List.mem_append_right _ (List.mem_replicate.mpr ⟨missing, rfl⟩)
      simp at mem
    have same : items.map some = (fields.map Prod.snd).map some := by
      rwa [full, List.replicate_zero, List.append_nil, ← Function.comp_def, ← List.map_map] at same
    rw [List.map_injective_iff.mpr (fun _ _ => Option.some.inj) same]
    exact .arr
  · rintro (_ | _)
    simp

/-- A value is read as a record with given fields exactly when it is one. -/
theorem fields?_eq_some_iff {fields : List (String × Json)} (nodup : (fields.map Prod.fst).Nodup)
    {j : Json} :
  j.fields? (fields.map Prod.fst) = some (fields.map fun field => some field.2)
    ↔ IsRecord fields j
  := by
  cases j with
  | obj members => exact fields?_obj_iff nodup
  | arr items => exact fields?_arr_iff
  | _ =>
    constructor
    · rintro ⟨⟩
    · rintro ⟨⟩

/-! ### Tags -/

/-- That a value is a tag: the name of what it names, or an object whose only member has this name
as its key, and null as its value. -/
inductive IsTag {α : Type} [Named α] (a : α) : Json → Prop
  | name : IsTag a (.ofText (name a))
  | key : IsTag a (.obj [(some (name a), .null)])

/-- What a tag names. -/
theorem tag?_eq_some_iff {α : Type} [Named α] [LawfulNamed α] {a : α} {j : Json} :
  tag? isNull j = some a ↔ IsTag a j
  := by
  constructor
  · intro read
    unfold tag? at read
    split at read
    · next text =>
      obtain ⟨text, rfl, named⟩ := Option.bind_eq_some_iff.mp read
      rw [ofName?_eq_some_iff.mp named]
      exact .name
    · next key value =>
      split at read
      · next void =>
        obtain ⟨key, rfl, named⟩ := Option.bind_eq_some_iff.mp read
        rw [ofName?_eq_some_iff.mp named]
        cases value with
        | null => exact .key
        | _ => cases void
      · cases read
    · cases read
  · rintro (_ | _)
    · exact ofName?_eq_some_iff.mpr rfl
    · exact ofName?_eq_some_iff.mpr rfl

end MediaClock.Json
