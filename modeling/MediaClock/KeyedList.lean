import MediaClock.Id

/-!
# Keyed lists

A `KeyedList key` is a list of entries, each with a track identifier as its `key`, in
strictly ascending order of the keys.  So there is at most one entry for a key, and two
keyed lists that answer every `find?` alike are equal.  `insert` puts an entry in its
place and displaces the entry that had its key.
-/

namespace MediaClock

/-- Entries in strictly ascending order of their keys. -/
structure KeyedList {α : Type} (key : α → TrackId) where
  /-- The entries in order. -/
  toList : List α
  ascending : toList.Pairwise fun a b => key a < key b

namespace KeyedList

variable {α : Type} {key : α → TrackId}

instance [DecidableEq α] : DecidableEq (KeyedList key) := fun a b =>
  decidable_of_iff (a.toList = b.toList) ⟨fun h => by cases a; cases b; congr, congrArg toList⟩

/-- The list with no entries. -/
def empty : KeyedList key where
  toList := []
  ascending := .nil

instance : EmptyCollection (KeyedList key) := ⟨empty⟩

instance : Inhabited (KeyedList key) := ⟨empty⟩

/-- The entry with a given key. -/
def find? (l : KeyedList key) (id : TrackId) : Option α :=
  l.toList.find? fun a => key a = id

/-- Whether there is an entry with a given key. -/
def contains (l : KeyedList key) (id : TrackId) : Bool := (l.find? id).isSome

/-- The keys in ascending order. -/
def keys (l : KeyedList key) : List TrackId := l.toList.map key

/-- The number of entries. -/
def size (l : KeyedList key) : Nat := l.toList.length

/-- Whether there are no entries. -/
def isEmpty (l : KeyedList key) : Bool := l.toList.isEmpty

/-- The entries with an entry put in its place. -/
def place (key : α → TrackId) (a : α) : List α → List α
  | [] => [a]
  | b :: rest =>
    if key a < key b then a :: b :: rest
    else if key a = key b then a :: rest
    else b :: place key a rest

theorem mem_place {a b : α} {l : List α} (h : b ∈ place key a l) :
  b = a ∨ b ∈ l
  := by
  induction l with
  | nil => simpa [place] using h
  | cons c rest ih =>
    unfold place at h
    split at h
    · simpa using h
    · split at h
      · rcases List.mem_cons.mp h with same | later
        · exact .inl same
        · exact .inr (List.mem_cons_of_mem c later)
      · rcases List.mem_cons.mp h with same | later
        · exact .inr (same ▸ List.mem_cons_self)
        · exact (ih later).imp id (List.mem_cons_of_mem c)

theorem ascending_place (a : α) {l : List α} (h : l.Pairwise fun a b => key a < key b) :
  (place key a l).Pairwise fun a b => key a < key b
  := by
  induction l with
  | nil => simp [place]
  | cons b rest ih =>
    obtain ⟨first, ordered⟩ := List.pairwise_cons.mp h
    unfold place
    split
    · rename_i before
      refine List.pairwise_cons.mpr ⟨fun c mem => ?_, h⟩
      rcases List.mem_cons.mp mem with rfl | later
      · exact before
      · exact TrackId.lt_trans before (first c later)
    · rename_i notBefore
      split
      · rename_i same
        exact List.pairwise_cons.mpr ⟨fun c later => same ▸ first c later, ordered⟩
      · rename_i ne
        refine List.pairwise_cons.mpr ⟨fun c mem => ?_, ih ordered⟩
        rcases mem_place mem with rfl | later
        · exact TrackId.lt_of_not_lt notBefore ne
        · exact first c later

/-- The list with an entry added, in place of the one that had its key. -/
def insert (l : KeyedList key) (a : α) : KeyedList key where
  toList := place key a l.toList
  ascending := ascending_place a l.ascending

/-- The entries of a list added one by one. -/
def ofList (entries : List α) : KeyedList key := entries.foldl insert empty

/-- The entries whose keys satisfy a test. -/
def restrict (l : KeyedList key) (test : TrackId → Bool) : KeyedList key where
  toList := l.toList.filter fun a => test (key a)
  ascending := l.ascending.filter _

theorem find?_place (a : α) (id : TrackId) {l : List α}
    (h : l.Pairwise fun a b => key a < key b) :
  (place key a l).find? (fun b => key b = id)
    = if key a = id then some a else l.find? (fun b => key b = id)
  := by
  induction l with
  | nil => by_cases hit : key a = id <;> simp [place, hit]
  | cons b rest ih =>
    obtain ⟨-, ordered⟩ := List.pairwise_cons.mp h
    unfold place
    by_cases hit : key a = id
    · split
      · simp [hit]
      · split
        · simp [hit]
        · rename_i ne
          have other : key b ≠ id := fun same => ne (hit.trans same.symm)
          simp [ih ordered, hit, other]
    · split
      · simp [hit]
      · split
        · rename_i same
          have other : key b ≠ id := fun again => hit (same.trans again)
          simp [hit, other]
        · by_cases other : key b = id <;> simp [ih ordered, hit, other]

/-- After an insertion, the key of the inserted entry finds it, and every other key finds
what it found before. -/
@[simp]
theorem find?_insert (l : KeyedList key) (a : α) (id : TrackId) :
  (l.insert a).find? id = if key a = id then some a else l.find? id
  := find?_place a id l.ascending

theorem contains_insert (l : KeyedList key) (a : α) (id : TrackId) :
  (l.insert a).contains id ↔ key a = id ∨ l.contains id
  := by
  rw [contains, find?_insert]
  split <;> simp_all [contains]

/-- A restricted list finds what the list finds for the keys that pass the test. -/
theorem find?_restrict (l : KeyedList key) (test : TrackId → Bool) (id : TrackId) :
  (l.restrict test).find? id = if test id then l.find? id else none
  := by
  rw [find?, restrict, List.find?_filter]
  split
  next passes =>
    rw [find?]
    congr 1
    funext a
    by_cases hit : key a = id
    · simp [hit, passes]
    · simp [hit]
  next fails =>
    apply List.find?_eq_none.mpr
    intro a mem
    by_cases hit : key a = id
    · simp [hit, fails]
    · simp [hit]

theorem key_of_find? {l : KeyedList key} {id : TrackId} {a : α} (h : l.find? id = some a) :
  key a = id
  := by simpa using List.find?_some h

theorem mem_of_find? {l : KeyedList key} {id : TrackId} {a : α} (h : l.find? id = some a) :
  a ∈ l.toList
  := List.mem_of_find?_eq_some h

/-- Every entry is found by its key. -/
theorem find?_of_mem {l : KeyedList key} {a : α} (mem : a ∈ l.toList) :
  l.find? (key a) = some a
  := by
  obtain ⟨entries, ascending⟩ := l
  simp only [find?] at *
  induction entries with
  | nil => cases mem
  | cons b rest ih =>
    obtain ⟨first, ordered⟩ := List.pairwise_cons.mp ascending
    rcases List.mem_cons.mp mem with rfl | later
    · simp
    · have other : key b ≠ key a := TrackId.ne_of_lt (first a later)
      simp [other, ih ordered later]

/-- No key occurs twice. -/
theorem nodup_keys (l : KeyedList key) :
  l.keys.Nodup
  := List.pairwise_map.mpr (l.ascending.imp TrackId.ne_of_lt)

/-- The keys are those that find an entry. -/
theorem mem_keys {l : KeyedList key} {id : TrackId} :
  id ∈ l.keys ↔ l.contains id
  := by
  constructor
  · intro mem
    obtain ⟨a, inside, rfl⟩ := List.mem_map.mp mem
    rw [contains, find?_of_mem inside]
    rfl
  · intro found
    obtain ⟨a, hit⟩ := Option.isSome_iff_exists.mp found
    exact List.mem_map.mpr ⟨a, mem_of_find? hit, key_of_find? hit⟩

theorem mem_keys_of_find? {l : KeyedList key} {id : TrackId} {a : α} (h : l.find? id = some a) :
  id ∈ l.keys
  := mem_keys.mpr (Option.isSome_of_mem h)

/-- A keyed list is determined by what its keys find. -/
theorem ext_find? {l m : KeyedList key} (h : ∀ id, l.find? id = m.find? id) :
  l = m
  := by
  have mem (a : α) : a ∈ l.toList ↔ a ∈ m.toList := by
    constructor
    · exact fun inside => mem_of_find? (h (key a) ▸ find?_of_mem inside)
    · exact fun inside => mem_of_find? ((h (key a)).symm ▸ find?_of_mem inside)
  obtain ⟨left, ascendingLeft⟩ := l
  obtain ⟨right, ascendingRight⟩ := m
  simp only [mk.injEq]
  clear h
  simp only at mem
  induction left generalizing right with
  | nil =>
    cases right with
    | nil => rfl
    | cons b rest => exact absurd ((mem b).mpr List.mem_cons_self) List.not_mem_nil
  | cons a rest ih =>
    cases right with
    | nil => exact absurd ((mem a).mp List.mem_cons_self) List.not_mem_nil
    | cons b others =>
      obtain ⟨firstLeft, orderedLeft⟩ := List.pairwise_cons.mp ascendingLeft
      obtain ⟨firstRight, orderedRight⟩ := List.pairwise_cons.mp ascendingRight
      have same : a = b := by
        rcases List.mem_cons.mp ((mem a).mp List.mem_cons_self) with same | behind
        · exact same
        · rcases List.mem_cons.mp ((mem b).mpr List.mem_cons_self) with same | ahead
          · exact same.symm
          · exact absurd (TrackId.lt_trans (firstRight a behind) (firstLeft b ahead))
              (TrackId.lt_irrefl _)
      subst same
      rw [ih orderedLeft others orderedRight]
      intro c
      constructor
      · intro inside
        rcases List.mem_cons.mp ((mem c).mp (List.mem_cons_of_mem a inside)) with rfl | later
        · exact absurd (firstLeft c inside) (TrackId.lt_irrefl _)
        · exact later
      · intro inside
        rcases List.mem_cons.mp ((mem c).mpr (List.mem_cons_of_mem a inside)) with rfl | later
        · exact absurd (firstRight c inside) (TrackId.lt_irrefl _)
        · exact later

end KeyedList

end MediaClock
