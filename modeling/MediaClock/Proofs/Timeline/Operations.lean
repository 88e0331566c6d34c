import MediaClock.Proofs.Odometer
import MediaClock.Timeline.Basic

/-!
# What the operations of a timeline do

A timeline is seen track by track: the base of a track, its last clock value and, for each
field, its odometer.  For every operation there is a lemma for each of these views that it
changes; a view without one is left alone by definition.
-/

namespace MediaClock

/-- A set with a single track finds that track and no other. -/
theorem TrackSet.find?_of_single {tracks : TrackSet} {track : Track}
    (single : tracks.toList = [track]) (id : TrackId) :
  tracks.find? id = if track.id = id then some track else none
  := by
  rw [KeyedList.find?, single]
  split <;> simp_all

theorem TrackSet.contains_of_single {tracks : TrackSet} {track : Track}
    (single : tracks.toList = [track]) (id : TrackId) :
  tracks.contains id ↔ track.id = id
  := by
  rw [KeyedList.contains, TrackSet.find?_of_single single]
  split <;> simp_all

/-- The entries of a restricted map are the values that it has for the identifiers that pass
the test. -/
theorem TrackMap.mem_restrict {α : Type} (m : TrackMap α) (test : TrackId → Bool) (id : TrackId)
    (value : α) :
  (id, value) ∈ (m.restrict test).toList ↔ m.get? id = some value ∧ test id
  := by
  rw [KeyedList.restrict, List.mem_filter, TrackMap.get?, Option.map_eq_some_iff]
  constructor
  · rintro ⟨mem, passed⟩
    exact ⟨⟨_, KeyedList.find?_of_mem mem, rfl⟩, passed⟩
  · rintro ⟨⟨⟨other, _⟩, found, rfl⟩, passed⟩
    obtain rfl : other = id := KeyedList.key_of_find? found
    exact ⟨KeyedList.mem_of_find? found, passed⟩

namespace Timeline

/-- The odometer of one field of a track. -/
def odometer (t : Timeline) (field : Field) (id : TrackId) : Odometer :=
  (t.unwrapper field).odometer id

theorem turns_odometer (t : Timeline) (field : Field) (id : TrackId) :
  (t.odometer field id).turns = t.wraps field id
  := rfl

/-! ### Rebasing -/

section Rebase

variable (t : Timeline) (track : Track) (raw : Stamps) (modulus : Int)

theorem settings_rebase :
  (t.rebase track raw modulus).state.settings = t.settings
  := rfl

theorem base_rebase (id : TrackId) :
  (t.rebase track raw modulus).state.base id = t.base id
  := rfl

/-- A packet captures the start of the epoch, or leaves it as it is. -/
theorem start?_rebase :
  (t.rebase track raw modulus).state.start? = some (t.startFrom track raw.dts)
  := rfl

theorem odometer_rebase (field : Field) (id : TrackId) :
  (t.rebase track raw modulus).state.odometer field id
    = if track.id = id then (t.odometer field track.id).next field modulus (raw.get field)
      else t.odometer field id
  := by
  cases field
  · apply t.pts.odometer_record .pts
  · apply t.dts.odometer_record .dts

/-- Each field is moved from the start of the epoch to the base of its track, and on by the
periods that its odometer tells. -/
theorem get_rebase (field : Field) :
  (t.rebase track raw modulus).answer.get field
    = unwrap (t.shift track (t.startFrom track raw.dts) (raw.get field))
        ((t.odometer field track.id).periods field modulus (raw.get field)) modulus
  := by
  cases field
  · exact congrArg (unwrap _ · modulus) (t.pts.periods_turn .pts modulus track.id raw.pts)
  · exact congrArg (unwrap _ · modulus) (t.dts.periods_turn .dts modulus track.id raw.dts)

theorem last?_rebase (id : TrackId) :
  (t.rebase track raw modulus).state.last? id
    = if track.id = id then
        some (track.timebase.toMicros t.settings.conversion
          (t.rebase track raw modulus).answer.dts)
      else t.last? id
  := by
  apply TrackMap.get?_set

end Rebase

/-! ### Integrating increments -/

/-- Taking an increment changes the last raw value and nothing else. -/
theorem state_increment (t : Timeline) (id : TrackId) (raw modulus : Int) :
  (t.increment id raw modulus).state = { t with sources := t.sources.set id raw }
  := by
  rw [increment]
  split
  · rfl
  · split
    · rfl
    · split <;> rfl

/-- Advancing a clock changes the last raw value and the clock, and nothing else. -/
theorem state_advance (t : Timeline) (id : TrackId) (raw modulus : Int) :
  (t.advance id raw modulus).state
    = { t with
        sources := t.sources.set id raw
        lasts := t.lasts.set id (t.advance id raw modulus).answer }
  := by
  rw [advance, state_increment]

/-! ### Outages and epochs -/

theorem base_bridge (t : Timeline) (tracks : TrackSet) (gap : Int) (id : TrackId) :
  (t.bridge tracks gap).base id
    = if tracks.contains id then Saturating.add (t.base id) gap else t.base id
  := by
  rw [base, bridge, TrackMap.get?_update _ tracks.nodup_keys, if_congr KeyedList.mem_keys rfl rfl]
  split <;> rfl

/-- An outage moves no base back. -/
theorem base_le_bridge {t : Timeline} {id : TrackId} (fits : Saturating.Fits (t.base id))
    (tracks : TrackSet) {gap : Int} (nonneg : 0 ≤ gap) :
  t.base id ≤ (t.bridge tracks gap).base id
  := by
  rw [base_bridge]
  split
  · calc t.base id
      _ = Saturating.clamp (t.base id) := (Saturating.clamp_of_fits fits).symm
      _ ≤ Saturating.clamp (t.base id + gap) := Saturating.clamp_mono (by omega)
  · rfl

/-- The anchor is the smallest last clock value of the tracks of a set. -/
theorem anchor?_eq_some_iff (t : Timeline) (tracks : TrackSet) (anchor : Int) :
  t.anchor? tracks = some anchor
    ↔ (∃ id, tracks.contains id ∧ t.last? id = some anchor)
      ∧ ∀ id value, tracks.contains id → t.last? id = some value → anchor ≤ value
  := by
  rw [anchor?, List.min?_eq_some_iff]
  apply and_congr
  · simp only [List.mem_map, Prod.exists, exists_eq_right, TrackMap.mem_restrict]
    apply exists_congr
    intro id
    rw [and_comm]
    rfl
  · simp only [List.mem_map, Prod.exists, exists_eq_right, TrackMap.mem_restrict]
    constructor
    · intro least id value known last
      exact least value ⟨id, last, known⟩
    · rintro least value ⟨id, last, known⟩
      exact least id value known last

/-- There is no anchor exactly when no track of the set has a clock value. -/
theorem anchor?_eq_none_iff (t : Timeline) (tracks : TrackSet) :
  t.anchor? tracks = none ↔ ∀ id, tracks.contains id → t.last? id = none
  := by
  rw [anchor?, List.min?_eq_none_iff, List.map_eq_nil_iff, List.eq_nil_iff_forall_not_mem]
  constructor
  · intro empty id known
    apply Option.eq_none_iff_forall_ne_some.mpr
    intro value last
    apply empty (id, value)
    exact (TrackMap.mem_restrict _ _ _ _).mpr ⟨last, known⟩
  · rintro silent ⟨id, value⟩ mem
    obtain ⟨last, known⟩ := (TrackMap.mem_restrict _ _ _ _).mp mem
    have none : t.lasts.get? id = none := silent id known
    rw [none] at last
    cases last

/-- The anchor of a single track is its last clock value. -/
theorem anchor?_of_single (t : Timeline) {tracks : TrackSet} {track : Track}
    (single : tracks.toList = [track]) :
  t.anchor? tracks = t.last? track.id
  := by
  cases last : t.last? track.id with
  | none =>
    apply (t.anchor?_eq_none_iff tracks).mpr
    intro id known
    rw [← (TrackSet.contains_of_single single id).mp known, last]
  | some value =>
    apply (t.anchor?_eq_some_iff tracks value).mpr
    constructor
    · use track.id, (TrackSet.contains_of_single single track.id).mpr rfl
    · intro id other known last'
      rw [← (TrackSet.contains_of_single single id).mp known, last] at last'
      cases last'
      rfl

/-- Closing an epoch moves the base of every track of the set to the anchor, if there is
one. -/
theorem base_close (t : Timeline) (tracks : TrackSet) (id : TrackId) :
  (t.close tracks).state.base id
    = if tracks.contains id then (t.anchor? tracks).getD (t.base id) else t.base id
  := by
  rw [base, close]
  cases t.anchor? tracks with
  | none => simp [base]
  | some anchor =>
    simp only [TrackMap.get?_update _ tracks.nodup_keys, if_congr KeyedList.mem_keys rfl rfl]
    split <;> rfl

/-- Closing an epoch forgets the odometers if the settings say so. -/
theorem odometer_close (t : Timeline) (tracks : TrackSet) (field : Field) (id : TrackId) :
  (t.close tracks).state.odometer field id
    = if t.settings.clearWraps then ⟨0, none⟩ else t.odometer field id
  := by
  cases field <;> simp only [odometer, unwrapper, close] <;> split <;> rfl

end Timeline

end MediaClock
