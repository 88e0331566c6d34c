import MediaClock.KeyedList
import MediaClock.Media
import MediaClock.Timebase

/-!
# Tracks

A track has an identifier, a kind of media and a timebase.  A `TrackSet` holds the tracks
of a stream, at most one for an identifier, in ascending order; adding a track displaces
the one that had its identifier.  A `TrackMap` holds values per track identifier.
-/

namespace MediaClock

/-- An elementary track of a stream. -/
structure Track where
  /-- Unique within the stream. -/
  id : TrackId
  mediaType : MediaType
  /-- The unit of the track's timestamps. -/
  timebase : Timebase
deriving DecidableEq, Repr

/-- The tracks of a stream in ascending order of their identifiers. -/
abbrev TrackSet := KeyedList Track.id

namespace TrackSet

/-- The tracks with one added, and the track that it displaces. -/
def add (tracks : TrackSet) (track : Track) : Option Track × TrackSet :=
  (tracks.find? track.id, tracks.insert track)

/-- The first track, in order, that carries a kind of media. -/
def firstOfType? (tracks : TrackSet) (mediaType : MediaType) : Option Track :=
  tracks.toList.find? fun track => track.mediaType = mediaType

end TrackSet

/-- A value for each of finitely many track identifiers. -/
abbrev TrackMap (α : Type) := KeyedList fun entry : TrackId × α => entry.1

namespace TrackMap

variable {α : Type}

/-- The value for an identifier. -/
def get? (m : TrackMap α) (id : TrackId) : Option α := (m.find? id).map Prod.snd

/-- The map with the value for an identifier set. -/
def set (m : TrackMap α) (id : TrackId) (value : α) : TrackMap α := m.insert (id, value)

/-- The map with the value of each identifier of a list made anew from the one it had. -/
def update (m : TrackMap α) (ids : List TrackId) (f : Option α → α) : TrackMap α :=
  ids.foldl (fun m id => m.set id (f (m.get? id))) m

/-- After a value is set, its identifier has it, and every other identifier has what it
had before. -/
@[simp]
theorem get?_set (m : TrackMap α) (id other : TrackId) (value : α) :
  (m.set id value).get? other = if id = other then some value else m.get? other
  := by
  simp only [get?, set, KeyedList.find?_insert]
  split <;> rfl

/-- After an update by a list without repetition, each of its identifiers has its new
value, and every other identifier has what it had before. -/
theorem get?_update (m : TrackMap α) {ids : List TrackId} (distinct : ids.Nodup)
    (f : Option α → α) (id : TrackId) :
  (m.update ids f).get? id = if id ∈ ids then some (f (m.get? id)) else m.get? id
  := by
  induction ids generalizing m with
  | nil => simp [update]
  | cons first rest ih =>
    obtain ⟨absent, distinct⟩ := List.nodup_cons.mp distinct
    have later := ih (m.set first (f (m.get? first))) distinct
    simp only [update, List.foldl_cons] at later ⊢
    rw [later]
    by_cases same : first = id
    · subst same
      simp [absent]
    · simp [same, Ne.symm same]

/-- An identifier with a value is a key. -/
theorem mem_keys_of_get? {m : TrackMap α} {id : TrackId} {value : α}
    (h : m.get? id = some value) :
  id ∈ m.keys
  := by
  obtain ⟨entry, found, -⟩ := Option.map_eq_some_iff.mp h
  apply KeyedList.mem_keys_of_find? found

/-- Setting a value makes its identifier a key. -/
@[simp]
theorem mem_keys_set (m : TrackMap α) (id other : TrackId) (value : α) :
  other ∈ (m.set id value).keys ↔ id = other ∨ other ∈ m.keys
  := by
  rw [KeyedList.mem_keys, KeyedList.mem_keys]
  apply KeyedList.contains_insert

/-- An update makes the identifiers of its list keys. -/
theorem mem_keys_update (m : TrackMap α) (ids : List TrackId) (f : Option α → α) (id : TrackId) :
  id ∈ (m.update ids f).keys ↔ id ∈ ids ∨ id ∈ m.keys
  := by
  induction ids generalizing m with
  | nil => simp [update]
  | cons first rest ih =>
    have later := ih (m.set first (f (m.get? first)))
    simp only [update, List.foldl_cons] at later ⊢
    rw [later, mem_keys_set, List.mem_cons, or_left_comm, or_assoc, eq_comm]

/-- A restricted map has the values of the map for the identifiers that pass the test. -/
theorem get?_restrict (m : TrackMap α) (test : TrackId → Bool) (id : TrackId) :
  get? (m.restrict test) id = if test id then m.get? id else none
  := by
  rw [get?, KeyedList.find?_restrict]
  split <;> rfl

/-- A map is determined by its values. -/
theorem ext_get? {m n : TrackMap α} (h : ∀ id, m.get? id = n.get? id) :
  m = n
  := by
  apply KeyedList.ext_find?
  intro id
  have same := h id
  simp only [get?] at same
  cases left : m.find? id with
  | none =>
    rw [left, Option.map_none] at same
    exact (Option.map_eq_none_iff.mp same.symm).symm
  | some a =>
    rw [left, Option.map_some] at same
    obtain ⟨b, right, value⟩ := Option.map_eq_some_iff.mp same.symm
    rw [right, Prod.ext ((KeyedList.key_of_find? left).trans (KeyedList.key_of_find? right).symm)
      value.symm]

/-- Setting the value of an identifier that passes the test sets it in the restricted map too. -/
theorem restrict_set_of_pass (m : TrackMap α) {test : TrackId → Bool} {id : TrackId}
    (passes : test id) (value : α) :
  (m.set id value).restrict test = set (m.restrict test) id value
  := by
  apply ext_get?
  intro other
  rw [get?_restrict, get?_set, get?_set, get?_restrict]
  by_cases same : id = other
  · rw [if_pos same, if_pos same, if_pos (same ▸ passes)]
  · rw [if_neg same, if_neg same]

/-- The restricted map does not change with the values of other identifiers. -/
theorem restrict_set_of_fail (m : TrackMap α) {test : TrackId → Bool} {id : TrackId}
    (fails : ¬ test id) (value : α) :
  (m.set id value).restrict test = m.restrict test
  := by
  apply ext_get?
  intro other
  rw [get?_restrict, get?_restrict, get?_set]
  by_cases same : id = other
  · rw [if_neg (same ▸ fails), if_neg (same ▸ fails)]
  · rw [if_neg same]

end TrackMap

end MediaClock
