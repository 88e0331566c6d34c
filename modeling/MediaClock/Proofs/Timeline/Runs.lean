import Mathlib.Data.List.Chain
import MediaClock.Proofs.Timeline.Operations
import MediaClock.Proofs.Trace
import MediaClock.Timeline.Call

/-!
# Packets of a run

A `Rebasing` is a packet whose raw timestamps are rebased in the course of a run, together
with the timeline that it meets.  What it emits is the sum of an offset, which is the
distance from the start of the epoch to the base of the track, the raw value, and the
periods by which its odometer moves it on, unless a part of that sum saturates.

Within an epoch, which is to say without bridging and closing, calls for other tracks leave
a track alone.  So from one packet of a track to its next one the offset stays the same, and
the odometers go on from where the first packet has left them.
-/

namespace MediaClock

/-- A packet rebased in the course of a run. -/
structure Rebasing where
  /-- The timeline that the packet meets. -/
  before : Timeline
  track : Track
  raw : Stamps
  modulus : Int

namespace Rebasing

variable (r : Rebasing)

/-- The clock values of the packet. -/
def emitted : Stamps := (r.before.rebase r.track r.raw r.modulus).answer

/-- The timeline that the packet leaves behind. -/
def after : Timeline := (r.before.rebase r.track r.raw r.modulus).state

/-- The start of the epoch in microseconds. -/
def start : Int := r.before.startFrom r.track r.raw.dts

/-- The start of the epoch in the timebase of the track. -/
def startTicks : Int := r.track.timebase.toTicks r.before.settings.conversion r.start

/-- The distance from the start of the epoch to the base of the track. -/
def offset : Int := r.before.baseTicks r.track - r.startTicks

/-- The odometer that a raw value of the packet meets. -/
def odometer (field : Field) : Odometer := r.before.odometer field r.track.id

/-- The periods by which a raw value of the packet is moved. -/
def periods (field : Field) : Nat := (r.odometer field).periods field r.modulus (r.raw.get field)

/-- That no sum or product behind a clock value of the packet saturates. -/
structure Unsaturated (field : Field) : Prop where
  moved : Saturating.Fits (r.raw.get field - r.startTicks)
  shifted : Saturating.Fits (r.before.baseTicks r.track + (r.raw.get field - r.startTicks))
  turned : Saturating.Fits (r.periods field * r.modulus)
  unwrapped : Saturating.Fits
    (r.before.baseTicks r.track + (r.raw.get field - r.startTicks) + r.periods field * r.modulus)

instance (field : Field) : Decidable (r.Unsaturated field) :=
  decidable_of_iff (_ ∧ _ ∧ _ ∧ _)
    ⟨fun ⟨a, b, c, d⟩ => ⟨a, b, c, d⟩, fun ⟨a, b, c, d⟩ => ⟨a, b, c, d⟩⟩

variable {r : Rebasing} {field : Field}

/-- Without saturation, a clock value is an exact sum. -/
theorem Unsaturated.get_emitted (exact : r.Unsaturated field) :
  r.emitted.get field = r.offset + r.raw.get field + r.periods field * r.modulus
  := by
  obtain ⟨moved, shifted, turned, unwrapped⟩ := exact
  have shift : r.before.shift r.track r.start (r.raw.get field)
      = r.before.baseTicks r.track + (r.raw.get field - r.startTicks) := by
    rw [Timeline.shift, Saturating.sub, ← startTicks, Saturating.clamp_of_fits moved,
      Saturating.add, Saturating.clamp_of_fits shifted]
  rw [emitted, Timeline.get_rebase]
  change Timeline.unwrap (r.before.shift r.track r.start (r.raw.get field)) (r.periods field)
    r.modulus = _
  rw [Timeline.unwrap, shift, Saturating.mul, Saturating.clamp_of_fits turned, Saturating.add,
    Saturating.clamp_of_fits unwrapped, offset]
  omega

/-- A raw value that is moved by the periods of its true time emits the true time, up to an
offset. -/
theorem Unsaturated.get_emitted_of_true (exact : r.Unsaturated field) {q y : Int}
    (raw : r.raw.get field = y % r.modulus)
    (periods : (r.periods field : Int) = y / r.modulus - q) :
  r.emitted.get field = r.offset + y - q * r.modulus
  := by
  have whole := Int.emod_add_mul_ediv y r.modulus
  rw [exact.get_emitted, raw, periods, Int.sub_mul, Int.mul_comm (y / _)]
  omega

theorem start?_after (r : Rebasing) :
  r.after.start? = some r.start
  := rfl

theorem baseTicks_after (r : Rebasing) (track : Track) :
  r.after.baseTicks track = r.before.baseTicks track
  := rfl

theorem odometer_after (r : Rebasing) (field : Field) :
  r.after.odometer field r.track.id = (r.odometer field).next field r.modulus (r.raw.get field)
  := by
  rw [after, Timeline.odometer_rebase, if_pos rfl]
  rfl

end Rebasing

namespace Timeline

/-- The calls of a run, each with the timeline that it is made on. -/
def trace (t : Timeline) (calls : List Call) : List (Timeline × Call) :=
  MediaClock.trace (fun t call => (t.perform call).state) t calls

/-- The steps of a run are those of its trace. -/
theorem run_eq_map_trace (t : Timeline) (calls : List Call) :
  t.run calls = (t.trace calls).map fun entry => entry.1.perform entry.2
  := by
  induction calls generalizing t with
  | nil => rfl
  | cons call calls ih =>
    rw [run, ih]
    rfl

/-- The packet of a call that rebases one. -/
def rebasing? : Timeline × Call → Option Rebasing
  | (t, .rebase track raw modulus) => some ⟨t, track, raw, modulus⟩
  | _ => none

/-- A call with a packet answers what the packet emits, and leaves behind what the packet
does. -/
theorem perform_of_rebasing? {t : Timeline} {call : Call} {r : Rebasing}
    (packet : rebasing? (t, call) = some r) :
  r.before = t ∧ (t.perform call).answer = .stamps r.emitted ∧ (t.perform call).state = r.after
  := by
  cases call <;> cases packet
  exact ⟨rfl, rfl, rfl⟩

/-- The packets of a run, in order. -/
def rebasings (t : Timeline) (calls : List Call) : List Rebasing :=
  (t.trace calls).filterMap rebasing?

theorem rebasings_cons (t : Timeline) (call : Call) (calls : List Call) :
  t.rebasings (call :: calls)
    = (rebasing? (t, call)).toList ++ (t.perform call).state.rebasings calls
  := MediaClock.filterMap_trace_cons _ _ _ _ _

/-- The packets of one track in a run, in order. -/
def rebasingsOf (t : Timeline) (id : TrackId) (calls : List Call) : List Rebasing :=
  (t.rebasings calls).filter fun r => r.track.id = id

theorem rebasingsOf_cons (t : Timeline) (id : TrackId) (call : Call) (calls : List Call) :
  t.rebasingsOf id (call :: calls)
    = (rebasing? (t, call)).toList.filter (·.track.id = id)
      ++ (t.perform call).state.rebasingsOf id calls
  := by
  rw [rebasingsOf, rebasings_cons, List.filter_append]
  rfl

theorem id_of_mem_rebasingsOf {t : Timeline} {id : TrackId} {calls : List Call} {r : Rebasing}
    (mem : r ∈ t.rebasingsOf id calls) :
  r.track.id = id
  := by simpa using (List.mem_filter.mp mem).2

/-- Whether a call stays within the epoch and leaves the bases alone. -/
def Call.keepsEpoch : Call → Bool
  | .rebase .. | .advance .. | .increment .. => true
  | .bridge .. | .close .. => false

/-- That a timeline goes on from another one as far as rebasing a track is concerned. -/
structure Continues (id : TrackId) (t later : Timeline) : Prop where
  settings : later.settings = t.settings
  base : later.base id = t.base id
  odometer : ∀ field, later.odometer field id = t.odometer field id
  start : ∀ start, t.start? = some start → later.start? = some start

theorem Continues.refl (id : TrackId) (t : Timeline) :
  Continues id t t
  := ⟨rfl, rfl, fun _ => rfl, fun _ captured => captured⟩

theorem Continues.trans {id : TrackId} {t u v : Timeline} (first : Continues id t u)
    (second : Continues id u v) :
  Continues id t v
  where
  settings := second.settings.trans first.settings
  base := second.base.trans first.base
  odometer field := (second.odometer field).trans (first.odometer field)
  start s captured := second.start s (first.start s captured)

/-- A call for another track, or one that rebases nothing, leaves a track alone. -/
theorem continues_perform (t : Timeline) {id : TrackId} {call : Call} (keeps : call.keepsEpoch)
    (other : ∀ r ∈ rebasing? (t, call), r.track.id ≠ id) :
  Continues id t (t.perform call).state
  := by
  cases call with
  | rebase track raw modulus =>
    have ne : track.id ≠ id := other _ rfl
    constructor
    · rfl
    · rfl
    · intro field
      apply (t.odometer_rebase track raw modulus field id).trans (if_neg ne)
    · intro start captured
      apply (t.start?_rebase track raw modulus).trans
      rw [startFrom, captured, Option.getD_some]
  | advance track raw modulus =>
    change Continues id t (t.advance track raw modulus).state
    rw [state_advance]
    exact ⟨rfl, rfl, fun field => by cases field <;> rfl, fun _ captured => captured⟩
  | increment track raw modulus =>
    change Continues id t (t.increment track raw modulus).state
    rw [state_increment]
    exact ⟨rfl, rfl, fun field => by cases field <;> rfl, fun _ captured => captured⟩
  | bridge => cases keeps
  | close => cases keeps

/-- The packets of a track go on from where the run starts, and each one from where the one
before it has left the timeline. -/
theorem rebasingsOf_continue (t : Timeline) (id : TrackId) {calls : List Call}
    (keeps : ∀ call ∈ calls, call.keepsEpoch) :
  (∀ r ∈ (t.rebasingsOf id calls).head?, Continues id t r.before)
    ∧ (t.rebasingsOf id calls).IsChain fun r later => Continues id r.after later.before
  := by
  induction calls generalizing t with
  | nil =>
    constructor
    · rintro _ ⟨⟩
    · exact .nil
  | cons call calls ih =>
    obtain ⟨head, chain⟩ := ih (t.perform call).state fun c mem => keeps c (.tail _ mem)
    by_cases own : ∃ r ∈ rebasing? (t, call), r.track.id = id
    · obtain ⟨r, packet, same⟩ := own
      obtain ⟨before, -, state⟩ := perform_of_rebasing? packet
      have first : (rebasing? (t, call)).toList.filter (·.track.id = id) = [r] := by
        rw [Option.mem_def.mp packet]
        simp [same]
      rw [rebasingsOf_cons, first, List.singleton_append, List.isChain_cons]
      constructor
      · rintro _ ⟨⟩
        rw [before]
        apply Continues.refl
      · rw [state] at head chain
        rw [state]
        exact ⟨head, chain⟩
    · have none : (rebasing? (t, call)).toList.filter (·.track.id = id) = [] := by
        apply List.filter_eq_nil_iff.mpr
        intro r packet same
        exact own ⟨r, Option.mem_toList.mp packet, of_decide_eq_true same⟩
      rw [rebasingsOf_cons, none, List.nil_append]
      constructor
      · intro r mem
        apply (t.continues_perform (keeps call List.mem_cons_self) _).trans (head r mem)
        intro r packet same
        exact own ⟨r, packet, same⟩
      · exact chain

section Consecutive

variable {t : Timeline} {id : TrackId} {calls : List Call}

/-- The first packet of a track meets the odometers that the run starts with. -/
theorem odometer_first (keeps : ∀ call ∈ calls, call.keepsEpoch) {r : Rebasing}
    (first : (t.rebasingsOf id calls)[0]? = some r) (field : Field) :
  r.odometer field = t.odometer field id
  := by
  rw [Rebasing.odometer, id_of_mem_rebasingsOf (List.mem_of_getElem? first)]
  apply ((t.rebasingsOf_continue id keeps).1 r _).odometer
  rw [List.head?_eq_getElem?, first]
  rfl

/-- Of two consecutive packets of a track, the second one goes on from the first one. -/
theorem continues_consecutive (keeps : ∀ call ∈ calls, call.keepsEpoch) {k : ℕ}
    {r later : Rebasing} (now : (t.rebasingsOf id calls)[k]? = some r)
    (next : (t.rebasingsOf id calls)[k + 1]? = some later) :
  Continues id r.after later.before
  := by
  obtain ⟨bound, rfl⟩ := List.getElem?_eq_some_iff.mp next
  obtain ⟨_, rfl⟩ := List.getElem?_eq_some_iff.mp now
  apply List.isChain_iff_getElem.mp (t.rebasingsOf_continue id keeps).2 k bound

/-- Of two consecutive packets of a track, the second one meets the odometers that the first
one leaves. -/
theorem odometer_eq_after (keeps : ∀ call ∈ calls, call.keepsEpoch) {k : ℕ}
    {r later : Rebasing} (now : (t.rebasingsOf id calls)[k]? = some r)
    (next : (t.rebasingsOf id calls)[k + 1]? = some later) (field : Field) :
  later.odometer field = r.after.odometer field id
  := by
  rw [Rebasing.odometer, id_of_mem_rebasingsOf (List.mem_of_getElem? next)]
  apply (continues_consecutive keeps now next).odometer

theorem odometer_consecutive (keeps : ∀ call ∈ calls, call.keepsEpoch) {k : ℕ}
    {r later : Rebasing} (now : (t.rebasingsOf id calls)[k]? = some r)
    (next : (t.rebasingsOf id calls)[k + 1]? = some later) (field : Field) :
  later.odometer field = (r.odometer field).next field r.modulus (r.raw.get field)
  := by
  rw [odometer_eq_after keeps now next, ← r.odometer_after,
    id_of_mem_rebasingsOf (List.mem_of_getElem? now)]

/-- Two consecutive packets of a track with one timebase have the same offset. -/
theorem offset_consecutive (keeps : ∀ call ∈ calls, call.keepsEpoch) {k : ℕ}
    {r later : Rebasing} (now : (t.rebasingsOf id calls)[k]? = some r)
    (next : (t.rebasingsOf id calls)[k + 1]? = some later)
    (timebase : later.track.timebase = r.track.timebase) :
  later.offset = r.offset
  := by
  have onward := continues_consecutive keeps now next
  have captured : later.before.start? = some r.start := onward.start _ r.start?_after
  have start : later.start = r.start := by
    rw [Rebasing.start, startFrom, captured, Option.getD_some]
  have base : later.before.base later.track.id = r.before.base r.track.id := by
    rw [id_of_mem_rebasingsOf (List.mem_of_getElem? now),
      id_of_mem_rebasingsOf (List.mem_of_getElem? next), onward.base]
    apply r.before.base_rebase
  have settings : later.before.settings = r.before.settings := by
    rw [onward.settings]
    apply r.before.settings_rebase
  rw [Rebasing.offset, Rebasing.startTicks, baseTicks, start, timebase, settings, base,
    Rebasing.offset, Rebasing.startTicks, baseTicks]

/-- All packets of a track with one timebase have the same offset. -/
theorem offset_eq_first (keeps : ∀ call ∈ calls, call.keepsEpoch) {timebase : Timebase}
    (own : ∀ r ∈ t.rebasingsOf id calls, r.track.timebase = timebase) {k : ℕ}
    {r first : Rebasing} (now : (t.rebasingsOf id calls)[k]? = some r)
    (start : (t.rebasingsOf id calls)[0]? = some first) :
  r.offset = first.offset
  := by
  induction k generalizing r with
  | zero =>
    rw [start] at now
    cases now
    rfl
  | succ k ih =>
    obtain ⟨bound, -⟩ := List.getElem?_eq_some_iff.mp now
    have before := List.getElem?_eq_getElem (Nat.lt_of_succ_lt bound)
    rw [offset_consecutive keeps before now, ih before]
    rw [own _ (List.mem_of_getElem? now), own _ (List.mem_of_getElem? before)]

theorem offset_eq_of_mem (keeps : ∀ call ∈ calls, call.keepsEpoch) {timebase : Timebase}
    (own : ∀ r ∈ t.rebasingsOf id calls, r.track.timebase = timebase) {r later : Rebasing}
    (mem : r ∈ t.rebasingsOf id calls) (memLater : later ∈ t.rebasingsOf id calls) :
  later.offset = r.offset
  := by
  obtain ⟨i, now⟩ := List.getElem?_of_mem mem
  obtain ⟨j, other⟩ := List.getElem?_of_mem memLater
  obtain ⟨first, rest, packets⟩ := List.exists_cons_of_ne_nil (List.ne_nil_of_mem mem)
  have start : (t.rebasingsOf id calls)[0]? = some first := by
    rw [packets]
    rfl
  rw [offset_eq_first keeps own other start, offset_eq_first keeps own now start]

end Consecutive

end Timeline

end MediaClock
