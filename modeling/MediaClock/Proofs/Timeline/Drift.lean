import MediaClock.Proofs.Conversion
import MediaClock.Proofs.Timeline.History

/-!
# Rounding does not build up

A packet is rebased by three rounded numbers: the start of the epoch and the base of the track
are turned into ticks, and the emitted decode time is turned into microseconds.  So what it
emits is off by at most a tick from where its unwrapped time lies on the clock, and the last
clock value by another half of a microsecond, in every timebase and however many packets,
turns and epochs have gone before.  In consequence the last clock values of two tracks drift
apart by no more than a tick of each and a microsecond, for as long as the latest packets have
set them: advancing the clock of a track moves it on from its latest packet.
-/

namespace MediaClock

namespace Rebasing

/-- The raw decode time of a packet with the turns of its counter, in microseconds. -/
def unwrapped (r : Rebasing) : ℚ :=
  r.raw.dts * r.track.timebase.tickLength
    + r.after.wraps .dts r.track.id * r.modulus * r.track.timebase.tickLength

/-- Where the unwrapped decode time of a packet lies on the clock of its track, in
microseconds. -/
def position (r : Rebasing) : ℚ := r.before.base r.track.id + r.unwrapped - r.start

/-- That no sum and no conversion behind the clock value of a packet saturates. -/
structure Unclamped (r : Rebasing) : Prop where
  sums : r.Unsaturated .dts
  base : Saturating.Fits
    (r.track.timebase.ticksOf r.before.settings.conversion (r.before.base r.track.id))
  start : Saturating.Fits (r.track.timebase.ticksOf r.before.settings.conversion r.start)
  last : Saturating.Fits
    (r.track.timebase.microsOf r.before.settings.conversion r.emitted.dts)

instance (r : Rebasing) : Decidable r.Unclamped :=
  decidable_of_iff (_ ∧ _ ∧ _ ∧ _)
    ⟨fun ⟨a, b, c, d⟩ => ⟨a, b, c, d⟩, fun ⟨a, b, c, d⟩ => ⟨a, b, c, d⟩⟩

/-- A decode time is moved by the turns that are counted behind it. -/
theorem periods_dts (r : Rebasing) :
  r.periods .dts = r.after.wraps .dts r.track.id
  := by
  rw [← Timeline.turns_odometer, r.odometer_after, periods, Odometer.periods, Odometer.next,
    Odometer.turn, Field.settle]
  cases Turn.between r.modulus (r.odometer .dts).origin? (r.raw.get .dts) <;> rfl

variable {r : Rebasing}

/-- What is emitted is off by at most a tick: half of one for the base, and half of one for
the start. -/
theorem abs_emitted_sub_position_le (exact : r.before.settings.conversion = .exact)
    (unclamped : r.Unclamped) :
  |r.emitted.dts * r.track.timebase.tickLength - r.position| ≤ r.track.timebase.tickLength
  := by
  obtain ⟨sums, base, start, -⟩ := unclamped
  rw [exact] at base start
  have base := r.track.timebase.abs_toTicks_sub_le base
  have start := r.track.timebase.abs_toTicks_sub_le start
  have sum : r.emitted.dts = r.before.baseTicks r.track - r.startTicks + r.raw.dts
      + r.after.wraps .dts r.track.id * r.modulus := by
    rw [← periods_dts]
    apply sums.get_emitted
  have split : r.emitted.dts * r.track.timebase.tickLength - r.position
      = (r.before.baseTicks r.track * r.track.timebase.tickLength - r.before.base r.track.id)
        - (r.startTicks * r.track.timebase.tickLength - r.start) := by
    rw [sum, position, unwrapped]
    push_cast
    ring
  rw [split, Timeline.baseTicks, startTicks, exact]
  calc _
    _ ≤ _ := abs_sub _ _
    _ ≤ r.track.timebase.tickLength / 2 + r.track.timebase.tickLength / 2 := add_le_add base start
    _ = r.track.timebase.tickLength := add_halves _

/-- The last clock value is off by at most a tick and half of a microsecond. -/
theorem abs_last_sub_position_le (exact : r.before.settings.conversion = .exact)
    (unclamped : r.Unclamped) :
  |r.last - r.position| ≤ r.track.timebase.tickLength + 1 / 2
  := by
  have emitted := abs_emitted_sub_position_le exact unclamped
  have fits := unclamped.last
  rw [exact] at fits
  have rounded := r.track.timebase.abs_toMicros_sub_le fits
  rw [last, exact]
  calc _
    _ ≤ _ := abs_sub_le _ (r.emitted.dts * r.track.timebase.tickLength) _
    _ ≤ 1 / 2 + r.track.timebase.tickLength := add_le_add rounded emitted
    _ = r.track.timebase.tickLength + 1 / 2 := add_comm _ _

/-- The last clock values that two packets with one start and one base leave behind differ by
what their unwrapped times differ by, up to a tick of each and a microsecond. -/
theorem abs_last_sub_last_le {r' : Rebasing} (exact : r.before.settings.conversion = .exact)
    (exact' : r'.before.settings.conversion = .exact) (unclamped : r.Unclamped)
    (unclamped' : r'.Unclamped) (start : r.start = r'.start)
    (base : r.before.base r.track.id = r'.before.base r'.track.id) :
  |(r.last - r'.last : ℚ) - (r.unwrapped - r'.unwrapped)|
    ≤ r.track.timebase.tickLength + r'.track.timebase.tickLength + 1
  := by
  have near := abs_last_sub_position_le exact unclamped
  have near' := abs_last_sub_position_le exact' unclamped'
  have apart : (r.last - r'.last : ℚ) - (r.unwrapped - r'.unwrapped)
      = (r.last - r.position) - (r'.last - r'.position) := by
    rw [position, position, start, base]
    ring
  rw [apart]
  calc _
    _ ≤ _ := abs_sub _ _
    _ ≤ _ := add_le_add near near'
    _ = _ := by ring

end Rebasing

namespace Timeline

/-- The number of epochs that have been closed in a run before a call. -/
def epochAt (calls : List Call) (i : ℕ) : ℕ := (calls.take i).countP Call.closes

/-- Whether a call rebases a packet of a track. -/
def Call.rebases (id : TrackId) : Call → Bool
  | .rebase track .. => track.id = id
  | _ => false

/-- Whether a call advances the running clock of a track. -/
def Call.advancesClock (id : TrackId) : Call → Bool
  | .advance other .. => other = id
  | _ => false

/-- That call `i` of a run rebases the latest packet of a track. -/
structure IsLatest (t : Timeline) (calls : List Call) (id : TrackId) (i : ℕ) (r : Rebasing) :
    Prop where
  packet : (t.trace calls)[i]?.bind rebasing? = some r
  own : r.track.id = id
  latest : ∀ call ∈ calls.drop (i + 1), ¬ call.rebases id

variable {t : Timeline} {calls : List Call} {id : TrackId} {i j : ℕ} {r r' : Rebasing}

/-- Only packets of a track and advances of its clock set its last clock value. -/
theorem Call.not_setsLast {call : Call} (silent : ¬ call.rebases id)
    (still : ¬ call.advancesClock id) :
  ¬ call.setsLast id
  := by
  cases call with
  | rebase => apply silent
  | advance => apply still
  | _ => rintro ⟨⟩

/-- A packet of a run meets the timeline that the calls before it lead to, and leaves the one
behind that the calls after it meet. -/
theorem performAll_of_packet (packet : (t.trace calls)[i]?.bind rebasing? = some r) :
  r.before = t.performAll (calls.take i) ∧ r.after = t.performAll (calls.take (i + 1))
  := by
  rw [getElem?_trace] at packet
  obtain ⟨entry, found, packet⟩ := Option.bind_eq_some_iff.mp packet
  obtain ⟨call, here, rfl⟩ := Option.map_eq_some_iff.mp found
  obtain ⟨before, -, after⟩ := perform_of_rebasing? packet
  constructor
  · apply before
  · rw [← after, List.take_add_one, here, Option.toList_some, performAll_append]
    rfl

theorem exists_packet_of_mem (mem : r ∈ t.rebasings calls) :
  ∃ i : ℕ, (t.trace calls)[i]?.bind rebasing? = some r
  := by
  obtain ⟨entry, mem, packet⟩ := List.mem_filterMap.mp mem
  obtain ⟨i, here⟩ := List.mem_iff_getElem?.mp mem
  use i
  rw [here]
  apply packet

/-- The packets of a run meet the settings that the run starts with. -/
theorem settings_of_packet (packet : (t.trace calls)[i]?.bind rebasing? = some r) :
  r.before.settings = t.settings
  := by
  rw [(performAll_of_packet packet).1]
  apply settings_performAll

/-- Two packets of one epoch have the same start. -/
theorem start_eq_of_epochAt_eq (packet : (t.trace calls)[i]?.bind rebasing? = some r)
    (packet' : (t.trace calls)[j]?.bind rebasing? = some r') (le : i ≤ j)
    (same : epochAt calls i = epochAt calls j) :
  r'.start = r.start
  := by
  obtain rfl | lt := le.eq_or_lt
  · rw [packet] at packet'
    cases packet'
    rfl
  · have split (k : ℕ) (le : k ≤ j) : calls.take k ++ (calls.take j).drop k = calls.take j := by
      rw [← Nat.min_eq_left le, ← List.take_take, Nat.min_eq_left le, List.take_append_drop]
    have open' : ∀ call ∈ (calls.take j).drop i, ¬ call.closes := by
      rw [epochAt, epochAt, ← split i le, List.countP_append] at same
      apply List.countP_eq_zero.mp
      omega
    have stays : ∀ call ∈ (calls.take j).drop (i + 1), ¬ call.closes := fun call mem =>
      open' call (List.drop_subset_drop_left _ (Nat.le_succ i) mem)
    have captured : r'.before.start? = some r.start := by
      rw [(performAll_of_packet packet').1, ← split (i + 1) lt, performAll_append,
        ← (performAll_of_packet packet).2]
      apply start?_performAll stays r.start?_after
    rw [Rebasing.start, startFrom, captured, Option.getD_some]

/-- Where the clock of a track is not advanced after its latest packet, the last clock value
that the packet sets stands for the rest of the run. -/
theorem IsLatest.last? (latest : IsLatest t calls id i r)
    (still : ∀ call ∈ calls.drop (i + 1), ¬ call.advancesClock id) :
  (t.performAll calls).last? id = some r.last
  := by
  have others : ∀ call ∈ calls.drop (i + 1), ¬ call.setsLast id := fun call mem =>
    Call.not_setsLast (latest.latest call mem) (still call mem)
  rw [← List.take_append_drop (i + 1) calls, performAll_append, last?_performAll others,
    ← (performAll_of_packet latest.packet).2, r.last?_after, if_pos latest.own]

/-- In exact conversion, what a packet emits and the last clock value that it leaves behind
are off by no more than a tick, and half of a microsecond for the latter.  After any run, the
last clock values of two tracks, whose latest packets came in one epoch and at one base and
whose clocks have not been advanced since, differ by what the unwrapped times of these packets
differ by, up to a tick of each and a microsecond. -/
theorem rounding_bounded (t : Timeline) (exact : t.settings.conversion = .exact)
    (calls : List Call) :
  (∀ r ∈ t.rebasings calls, r.Unclamped →
      r.after.start? = some r.start ∧ r.after.last? r.track.id = some r.last
        ∧ |r.emitted.dts * r.track.timebase.tickLength - r.position| ≤ r.track.timebase.tickLength
        ∧ |r.last - r.position| ≤ r.track.timebase.tickLength + 1 / 2)
    ∧ ∀ a b i j r r', IsLatest t calls a i r → IsLatest t calls b j r' →
      (∀ call ∈ calls.drop (i + 1), ¬ call.advancesClock a) →
      (∀ call ∈ calls.drop (j + 1), ¬ call.advancesClock b) →
      r.Unclamped → r'.Unclamped → epochAt calls i = epochAt calls j →
      r.before.base a = r'.before.base b →
      ∃ last last', (t.performAll calls).last? a = some last
        ∧ (t.performAll calls).last? b = some last'
        ∧ |(last - last' : ℚ) - (r.unwrapped - r'.unwrapped)|
          ≤ r.track.timebase.tickLength + r'.track.timebase.tickLength + 1
  := by
  have exactly {i : ℕ} {r : Rebasing} (packet : (t.trace calls)[i]?.bind rebasing? = some r) :
      r.before.settings.conversion = .exact := by
    rw [settings_of_packet packet]
    apply exact
  constructor
  · intro r mem unclamped
    obtain ⟨i, packet⟩ := exists_packet_of_mem mem
    constructor
    · apply r.start?_after
    constructor
    · rw [r.last?_after, if_pos rfl]
    constructor
    · apply Rebasing.abs_emitted_sub_position_le (exactly packet) unclamped
    · apply Rebasing.abs_last_sub_position_le (exactly packet) unclamped
  · intro a b i j r r' latest latest' still still' unclamped unclamped' same bases
    use r.last, r'.last, latest.last? still, latest'.last? still'
    have start : r.start = r'.start := by
      obtain le | le := Nat.le_total i j
      · symm
        apply start_eq_of_epochAt_eq latest.packet latest'.packet le same
      · apply start_eq_of_epochAt_eq latest'.packet latest.packet le same.symm
    have base : r.before.base r.track.id = r'.before.base r'.track.id := by
      rw [latest.own, latest'.own, bases]
    apply Rebasing.abs_last_sub_last_le (exactly latest.packet) (exactly latest'.packet) unclamped
      unclamped' start base

/-- An audio track, whose ticks are no whole number of microseconds. -/
def sampled : Track :=
  ⟨⟨0⟩, .audio, { Timebase.mpegTs with den := 44100, den_ne_zero := by decide }⟩

/-- A video track, whose ticks are shorter than a microsecond. -/
def clocked : Track :=
  ⟨⟨1⟩, .video, { Timebase.mpegTs with den := 27000000, den_ne_zero := by decide }⟩

/-- Both tracks after an outage, with a turn of the audio counter. -/
def twoRates : List Call := [
  .bridge (.ofList [sampled, clocked]) 5000003,
  .rebase sampled ⟨65000, 65000⟩ 65536,
  .rebase clocked ⟨40000007, 40000001⟩ 8589934592,
  .rebase sampled ⟨489, 488⟩ 65536,
  .increment ⟨0⟩ 77 65536,
  .close ∅]

theorem rounding_bounded_twoRates :
  ∃ r r', IsLatest {} twoRates ⟨0⟩ 3 r ∧ IsLatest {} twoRates ⟨1⟩ 2 r' ∧ r.Unclamped
    ∧ r'.Unclamped ∧ epochAt twoRates 3 = epochAt twoRates 2
    ∧ r.before.base ⟨0⟩ = r'.before.base ⟨1⟩
    ∧ |r.last - r.position| ≤ r.track.timebase.tickLength + 1 / 2
    ∧ ∃ last last', (performAll {} twoRates).last? ⟨0⟩ = some last
      ∧ (performAll {} twoRates).last? ⟨1⟩ = some last'
      ∧ |(last - last' : ℚ) - (r.unwrapped - r'.unwrapped)|
        ≤ r.track.timebase.tickLength + r'.track.timebase.tickLength + 1
  := by
  obtain ⟨r, audio, mem, unclamped⟩ : ∃ r, IsLatest {} twoRates ⟨0⟩ 3 r
      ∧ r ∈ rebasings {} twoRates ∧ r.Unclamped :=
    ⟨_, ⟨rfl, rfl, by decide⟩, .tail _ (.tail _ (.head _)), by decide⟩
  obtain ⟨r', video, unclamped'⟩ : ∃ r', IsLatest {} twoRates ⟨1⟩ 2 r' ∧ r'.Unclamped :=
    ⟨_, ⟨rfl, rfl, by decide⟩, by decide⟩
  have bases : r.before.base ⟨0⟩ = r'.before.base ⟨1⟩ := by
    rw [(performAll_of_packet audio.packet).1, (performAll_of_packet video.packet).1]
    decide +kernel
  obtain ⟨single, pair⟩ := rounding_bounded {} rfl twoRates
  refine ⟨r, r', audio, video, unclamped, unclamped', rfl, bases, ?_, ?_⟩
  · apply (single r mem unclamped).2.2.2
  · apply pair ⟨0⟩ ⟨1⟩ 3 2 r r' audio video (by decide) (by decide) unclamped unclamped' rfl bases

/-- A packet of each of two tracks, after which the clock of the video track is advanced. -/
def advancedVideo : List Call := [
  .rebase ⟨⟨0⟩, .video, .rtmp⟩ ⟨0, 0⟩ 8589934592,
  .rebase ⟨⟨1⟩, .audio, .rtmp⟩ ⟨0, 0⟩ 8589934592,
  .advance ⟨0⟩ 0 8589934592,
  .advance ⟨0⟩ 1000000000 8589934592]

/-- Where the clock of a track has been advanced since its latest packet, there is no such bound:
the unwrapped times of the two packets agree, and the last clock values lie 1000 seconds apart. -/
theorem not_rounding_bounded_advancedVideo :
  ∃ r r', IsLatest {} advancedVideo ⟨0⟩ 0 r ∧ IsLatest {} advancedVideo ⟨1⟩ 1 r' ∧ r.Unclamped
    ∧ r'.Unclamped ∧ epochAt advancedVideo 0 = epochAt advancedVideo 1
    ∧ r.before.base ⟨0⟩ = r'.before.base ⟨1⟩
    ∧ ∃ last last', (performAll {} advancedVideo).last? ⟨0⟩ = some last
      ∧ (performAll {} advancedVideo).last? ⟨1⟩ = some last'
      ∧ r.track.timebase.tickLength + r'.track.timebase.tickLength + 1
        < |(last - last' : ℚ) - (r.unwrapped - r'.unwrapped)|
  := by
  refine ⟨_, _, ⟨rfl, rfl, by decide⟩, ⟨rfl, rfl, by decide⟩, by decide, by decide, rfl, rfl,
    1000000000, 0, by decide, by decide, ?_⟩
  -- Both unwrapped times are zero, and the bound is 2001 microseconds.
  decide +kernel

end Timeline

end MediaClock
