import MediaClock.Proofs.Timeline.Operations
import MediaClock.Timeline.Call

/-!
# Entries of a timeline

A timeline keeps seven maps, and an operation changes some of them only under conditions: a
late raw value leaves the origin of its field alone, a turn is counted only where there is an
origin, and closing an epoch forgets some of the maps always and others by the settings.  All
the same the entries fit together.  A track has an origin for one field exactly when it has
one for the other, and then it has a last clock value; what turns are counted are those of
tracks with origins, and they are counted from one on; and an epoch that has a start has a
track with origins.
-/

namespace MediaClock

namespace Unwrapper

variable {u : Unwrapper} {field : Field} {M raw : Int} {id : TrackId} {limit : ℕ}

/-- A raw value that turns has an origin. -/
theorem mem_origins_of_turn (turned : u.turn M id raw ≠ .level) :
  id ∈ u.origins.keys
  := by
  cases seen : u.origins.get? id with
  | none =>
    rw [turn, seen] at turned
    exact absurd rfl turned
  | some origin => apply TrackMap.mem_keys_of_get? seen

/-- A turn that is settled on was seen. -/
theorem turned_of_settle (turned : field.settle (u.turn M id raw) ≠ .level) :
  u.turn M id raw ≠ .level
  := by
  intro level
  rw [level] at turned
  cases field <;> exact turned rfl

/-- A track has origins as soon as it has raw values. -/
theorem mem_origins_record (u : Unwrapper) (field : Field) (M : Int) (id : TrackId) (raw : Int)
    (other : TrackId) :
  other ∈ (u.record id raw (field.settle (u.turn M id raw))).origins.keys
    ↔ id = other ∨ other ∈ u.origins.keys
  := by
  cases settled : field.settle (u.turn M id raw) with
  | level => apply TrackMap.mem_keys_set
  | forward => apply TrackMap.mem_keys_set
  | reverse =>
    -- A late value is recorded nowhere, but it is late only with respect to an origin.
    have turned : field.settle (u.turn M id raw) ≠ .level := by
      rw [settled]
      nofun
    have seen : id ∈ u.origins.keys := mem_origins_of_turn (turned_of_settle turned)
    change other ∈ u.origins.keys ↔ _
    constructor
    · exact .inr
    · rintro (rfl | known)
      · apply seen
      · apply known

/-- That turns are counted of tracks with origins only, and from one on up to a limit. -/
structure IsConsistent (u : Unwrapper) (limit : ℕ) : Prop where
  turned : u.counts.keys ⊆ u.origins.keys
  bounds : ∀ id, ∀ count ∈ u.counts.get? id, 1 ≤ count ∧ count ≤ limit

theorem IsConsistent.count_le (consistent : u.IsConsistent limit) (id : TrackId) :
  u.count id ≤ limit
  := by
  rw [count]
  cases counted : u.counts.get? id with
  | none => apply Nat.zero_le
  | some count => apply (consistent.bounds id count counted).2

theorem IsConsistent.mono (consistent : u.IsConsistent limit) :
  u.IsConsistent (limit + 1)
  where
  turned := consistent.turned
  bounds id count counted :=
    (consistent.bounds id count counted).imp_right Nat.le_succ_of_le

/-- A raw value adds at most one turn. -/
theorem IsConsistent.record (consistent : u.IsConsistent limit) (field : Field) (M : Int)
    (id : TrackId) (raw : Int) :
  (u.record id raw (field.settle (u.turn M id raw))).IsConsistent (limit + 1)
  := by
  have origins := u.mem_origins_record field M id raw
  constructor
  · intro other counted
    apply (origins other).mpr
    cases settled : field.settle (u.turn M id raw) with
    | level =>
      rw [settled] at counted
      exact .inr (consistent.turned counted)
    | forward =>
      rw [settled] at counted
      obtain same | counted := (TrackMap.mem_keys_set _ _ _ _).mp counted
      · exact .inl same
      · exact .inr (consistent.turned counted)
    | reverse =>
      rw [settled] at counted
      exact .inr (consistent.turned counted)
  · intro other count counted
    cases settled : field.settle (u.turn M id raw) with
    | level =>
      rw [settled] at counted
      apply consistent.mono.bounds other count counted
    | forward =>
      rw [settled] at counted
      change count ∈ (u.counts.set id (u.count id + 1)).get? other at counted
      rw [TrackMap.get?_set] at counted
      split at counted
      · cases counted
        have := consistent.count_le id
        omega
      · apply consistent.mono.bounds other count counted
    | reverse =>
      rw [settled] at counted
      apply consistent.mono.bounds other count counted

end Unwrapper

namespace Timeline

variable {t : Timeline} {tracks : TrackSet} {limit : ℕ}

/-- Rebasing records the raw value of each field with what its turn is settled as. -/
theorem unwrapper_rebase (t : Timeline) (track : Track) (raw : Stamps) (modulus : Int)
    (field : Field) :
  (t.rebase track raw modulus).state.unwrapper field
    = (t.unwrapper field).record track.id (raw.get field)
        (field.settle ((t.unwrapper field).turn modulus track.id (raw.get field)))
  := by
  cases field <;> rfl

/-- Closing an epoch forgets turns and origins, or leaves them as they are. -/
theorem unwrapper_close (t : Timeline) (tracks : TrackSet) (field : Field) :
  (t.close tracks).state.unwrapper field
    = if t.settings.clearWraps then {} else t.unwrapper field
  := by
  cases field <;> rfl

/-! ### Entries that go together -/

/-- That the entries of a timeline fit together, with no more turns than a limit. -/
structure IsConsistent (t : Timeline) (limit : ℕ) : Prop where
  /-- Both fields have origins for the same tracks. -/
  origins : ∀ id, id ∈ (t.unwrapper .pts).origins.keys ↔ id ∈ (t.unwrapper .dts).origins.keys
  /-- A track with origins has a last clock value. -/
  lasts : (t.unwrapper .dts).origins.keys ⊆ t.lasts.keys
  /-- Turns are counted of tracks with origins. -/
  unwrapper : ∀ field, (t.unwrapper field).IsConsistent limit
  /-- The start of an epoch comes from a packet, which leaves origins behind. -/
  started : t.start?.isSome → ∃ id, id ∈ (t.unwrapper .dts).origins.keys

theorem isConsistent_new (settings : Settings) :
  IsConsistent { settings } 0
  where
  origins _ := Iff.rfl
  lasts := List.nil_subset _
  unwrapper field := by
    cases field <;> exact ⟨List.nil_subset _, nofun⟩
  started := nofun

theorem IsConsistent.mono (consistent : t.IsConsistent limit) :
  t.IsConsistent (limit + 1)
  := { consistent with unwrapper := fun field => (consistent.unwrapper field).mono }

/-- A packet leaves origins of both fields and a last clock value behind. -/
theorem IsConsistent.rebase (consistent : t.IsConsistent limit) (track : Track) (raw : Stamps)
    (modulus : Int) :
  (t.rebase track raw modulus).state.IsConsistent (limit + 1)
  := by
  have origins (field : Field) (id : TrackId) :
      id ∈ ((t.rebase track raw modulus).state.unwrapper field).origins.keys
        ↔ track.id = id ∨ id ∈ (t.unwrapper field).origins.keys := by
    rw [unwrapper_rebase]
    apply Unwrapper.mem_origins_record
  constructor
  · intro id
    rw [origins, origins, consistent.origins]
  · intro id seen
    apply (TrackMap.mem_keys_set _ _ _ _).mpr
    exact ((origins .dts id).mp seen).imp_right (consistent.lasts ·)
  · intro field
    rw [unwrapper_rebase]
    apply (consistent.unwrapper field).record
  · intro _
    use track.id
    exact (origins .dts track.id).mpr (.inl rfl)

theorem IsConsistent.close (consistent : t.IsConsistent limit) (tracks : TrackSet) :
  (t.close tracks).state.IsConsistent limit
  := by
  have unwrapper := t.unwrapper_close tracks
  -- Either all turns and origins are forgotten or none, and so is the start.
  constructor
  · intro id
    rw [unwrapper, unwrapper]
    split
    · rfl
    · apply consistent.origins
  · rw [unwrapper]
    split
    · apply List.nil_subset
    · apply consistent.lasts
  · intro field
    rw [unwrapper]
    split
    · exact ⟨List.nil_subset _, nofun⟩
    · apply consistent.unwrapper
  · nofun

/-- A call keeps the entries together, and adds at most one turn. -/
theorem IsConsistent.perform (consistent : t.IsConsistent limit) (call : Call) :
  (t.perform call).state.IsConsistent (limit + 1)
  := by
  cases call with
  | rebase track raw modulus => apply consistent.rebase
  | advance id raw modulus =>
    change (t.advance id raw modulus).state.IsConsistent _
    rw [state_advance]
    refine { consistent.mono with lasts := ?_ }
    intro other seen
    apply (TrackMap.mem_keys_set _ _ _ _).mpr
    exact .inr (consistent.lasts seen)
  | increment id raw modulus =>
    change (t.increment id raw modulus).state.IsConsistent _
    rw [state_increment]
    exact { consistent.mono with }
  | bridge tracks gap => exact { consistent.mono with }
  | close tracks => apply (consistent.close tracks).mono

/-! ### Entries of known tracks -/

/-- That a timeline has entries of the tracks of a set only. -/
structure IsWithin (t : Timeline) (tracks : TrackSet) : Prop where
  bases : t.bases.keys ⊆ tracks.keys
  sources : t.sources.keys ⊆ tracks.keys
  lasts : t.lasts.keys ⊆ tracks.keys
  counts : ∀ field, (t.unwrapper field).counts.keys ⊆ tracks.keys
  origins : ∀ field, (t.unwrapper field).origins.keys ⊆ tracks.keys

/-- Whether a call is one for tracks of a set. -/
def Call.IsWithin (tracks : TrackSet) : Call → Prop
  | .rebase track .. => track.id ∈ tracks.keys
  | .advance id .. | .increment id .. => id ∈ tracks.keys
  | .bridge others _ | .close others => others.keys ⊆ tracks.keys

theorem IsWithin.mono (within : t.IsWithin tracks) {more : TrackSet}
    (grows : tracks.keys ⊆ more.keys) :
  t.IsWithin more
  where
  bases := List.Subset.trans within.bases grows
  sources := List.Subset.trans within.sources grows
  lasts := List.Subset.trans within.lasts grows
  counts field := List.Subset.trans (within.counts field) grows
  origins field := List.Subset.trans (within.origins field) grows

theorem isWithin_new (settings : Settings) (tracks : TrackSet) :
  IsWithin { settings } tracks
  where
  bases := List.nil_subset _
  sources := List.nil_subset _
  lasts := List.nil_subset _
  counts field := by cases field <;> apply List.nil_subset
  origins field := by cases field <;> apply List.nil_subset

/-- A map within a set of tracks stays there if the value of a track of the set is set. -/
theorem keys_set_subset {α : Type} {m : TrackMap α} {id : TrackId} (known : id ∈ tracks.keys)
    (within : m.keys ⊆ tracks.keys) (value : α) :
  (m.set id value).keys ⊆ tracks.keys
  := by
  intro other mem
  obtain rfl | mem := (TrackMap.mem_keys_set _ _ _ _).mp mem
  · apply known
  · apply within mem

theorem keys_update_subset {α : Type} {m : TrackMap α} {ids : List TrackId}
    (known : ids ⊆ tracks.keys) (within : m.keys ⊆ tracks.keys) (f : Option α → α) :
  (m.update ids f).keys ⊆ tracks.keys
  := by
  intro other mem
  obtain mem | mem := (TrackMap.mem_keys_update _ _ _ _).mp mem
  · apply known mem
  · apply within mem

theorem IsWithin.rebase (within : t.IsWithin tracks) {track : Track}
    (known : track.id ∈ tracks.keys) (raw : Stamps) (modulus : Int) :
  (t.rebase track raw modulus).state.IsWithin tracks
  where
  bases := within.bases
  sources := within.sources
  lasts := keys_set_subset known within.lasts _
  counts field := by
    rw [unwrapper_rebase]
    cases field.settle ((t.unwrapper field).turn modulus track.id (raw.get field)) with
    | level => apply within.counts
    | forward => apply keys_set_subset known (within.counts field)
    | reverse => apply within.counts
  origins field := by
    rw [unwrapper_rebase]
    intro other seen
    obtain rfl | seen := (Unwrapper.mem_origins_record _ _ _ _ _ _).mp seen
    · apply known
    · apply within.origins field seen

theorem IsWithin.close (within : t.IsWithin tracks) {others : TrackSet}
    (known : others.keys ⊆ tracks.keys) :
  (t.close others).state.IsWithin tracks
  where
  bases := by
    rw [Timeline.close]
    cases t.anchor? others with
    | none => apply within.bases
    | some anchor => apply keys_update_subset known within.bases
  sources := List.nil_subset _
  lasts := within.lasts
  counts field := by
    rw [unwrapper_close]
    split
    · apply List.nil_subset
    · apply within.counts
  origins field := by
    rw [unwrapper_close]
    split
    · apply List.nil_subset
    · apply within.origins

/-- A call for tracks of a set makes entries of them only. -/
theorem IsWithin.perform (within : t.IsWithin tracks) {call : Call}
    (known : call.IsWithin tracks) :
  (t.perform call).state.IsWithin tracks
  := by
  cases call with
  | rebase track raw modulus => apply within.rebase known
  | advance id raw modulus =>
    change (t.advance id raw modulus).state.IsWithin tracks
    rw [state_advance]
    exact { within with
      sources := keys_set_subset known within.sources _
      lasts := keys_set_subset known within.lasts _ }
  | increment id raw modulus =>
    change (t.increment id raw modulus).state.IsWithin tracks
    rw [state_increment]
    exact { within with sources := keys_set_subset known within.sources _ }
  | bridge others gap =>
    exact { within with bases := keys_update_subset known within.bases _ }
  | close others => apply within.close known

end Timeline

end MediaClock
