import MediaClock.Proofs.Replay.Operations
import MediaClock.Proofs.Timeline.Clock
import MediaClock.Proofs.Timeline.History

/-!
# The deck of a single track

Of a replay with a single track, whose raw decode times stay below the half range, little more
is left than a clock that starts at some raw value: its counters do not turn, and its stream
takes every packet in.  A `Deck` is this clock with the instants that outages are measured
from.  A replay that nothing saturates in dispatches the decode times of its deck.
-/

namespace MediaClock.Replay

/-- The clock of a single track. -/
structure Deck where
  /-- Where the epoch starts on the clock, in microseconds. -/
  base : Int := 0
  /-- The raw decode time that the epoch starts at. -/
  origin? : Option Int := none
  /-- The last clock value, in ticks. -/
  last? : Option Int := none
  /-- When the last packet has come in, in milliseconds. -/
  heard? : Option Nat := none
  /-- The time since the beginning, in milliseconds. -/
  elapsed : Nat := 0
  stopped : Bool := false

namespace Deck

/-- The time since the last packet, in milliseconds. -/
def outage (d : Deck) : Nat := d.heard?.elim 0 (d.elapsed - ·)

/-- The raw decode time that the epoch starts at if a packet comes in. -/
def originFrom (d : Deck) (raw : Int) : Int := d.origin?.getD raw

/-- The clock value of a raw decode time. -/
def clock (d : Deck) (timebase : Timebase) (raw : Int) : Int :=
  timebase.toTicks .exact d.base + (raw - d.originFrom raw)

/-- The deck after an event.  A stop ends the epoch of a deck that has not been stopped, and
nothing starts a stopped one again. -/
def next (timebase : Timebase) (d : Deck) : Event → Deck
  | .start => { d with base := d.base + 1000 * d.outage }
  | .stop =>
    if d.stopped then d
    else
      { d with
        base := d.last?.elim d.base (timebase.toMicros .exact)
        origin? := none
        stopped := true }
  | .base _ raw _ _ =>
    { d with
      origin? := some (d.originFrom raw.dts)
      last? := some (d.clock timebase raw.dts)
      heard? := some d.elapsed }
  | .sleep ms => { d with elapsed := d.elapsed + ms }
  | .track .. | .delta .. => d

/-- The clock values of an event. -/
def clocks (timebase : Timebase) (d : Deck) : Event → List Int
  | .base _ raw _ _ => [d.clock timebase raw.dts]
  | _ => []

end Deck

/-- Whether an event is one for a deck: packets are rebased, their raw decode times lie in the
lower half of a modulus, and no format is given as unknown. -/
def Event.IsPlayed (id : TrackId) (M : Int) : Event → Prop
  | .base other raw modulus cargo =>
    other = id ∧ modulus = M ∧ IsLow M raw.dts ∧ cargo.format? ≠ some .unknown
  | .start | .stop | .sleep _ => True
  | .track .. | .delta .. => False

/-- That nothing saturates in carrying out an event: no conversion and no sum behind the decode
time of a packet, and not the outage that a start adds to the bases. -/
def Lossless : Replay × Event → Prop
  | (r, .base id raw modulus _) =>
    ∀ track ∈ r.stream.tracks.find? id,
      (⟨r.stream.timeline, track, raw, modulus⟩ : Rebasing).Lossless
  | (r, .start) =>
    ∀ last ∈ r.stream.lastPacket?,
      Saturating.Fits ((r.now - last) / 1000 : ℕ)
        ∧ ∀ track ∈ r.stream.tracks.toList,
          Saturating.Fits (r.stream.timeline.base track.id + ((r.now - last) / 1000 : ℕ))
  | _ => True

instance : DecidablePred Lossless
  | (r, .base id _ _ _) =>
    inferInstanceAs (Decidable (∀ track ∈ r.stream.tracks.find? id, Rebasing.Lossless _))
  | (r, .start) =>
    inferInstanceAs (Decidable (∀ last ∈ r.stream.lastPacket?,
      Saturating.Fits _ ∧ ∀ track ∈ r.stream.tracks.toList, Saturating.Fits _))
  | (_, .stop) | (_, .sleep _) | (_, .track ..) | (_, .delta ..) => isTrue trivial

/-! ### Simulation -/

/-- That a replay goes along with a deck. -/
structure GoesAlong (r : Replay) (track : Track) (M : Int) (d : Deck) : Prop where
  single : r.stream.tracks.toList = [track]
  attached : r.stream.application? = some application
  exact : r.stream.timeline.settings.conversion = .exact
  base : r.stream.timeline.base track.id = d.base
  start : r.stream.timeline.start? = d.origin?.map (track.timebase.toMicros .exact)
  /-- The origin survives the way to microseconds and back. -/
  origin : ∀ raw ∈ d.origin?,
    track.timebase.toTicks .exact (track.timebase.toMicros .exact raw) = raw
  last : r.stream.timeline.last? track.id = d.last?.map (track.timebase.toMicros .exact)
  unturned : (r.stream.timeline.odometer .dts track.id).Unturned M
  heard : r.stream.lastPacket? = d.heard?.map (· * 1000000)
  elapsed : r.elapsed = d.elapsed
  stopped : r.stream.phase = .stopped ↔ d.stopped

variable {r : Replay} {track : Track} {M : Int} {d : Deck}

/-- A packet has the clock value of the deck. -/
theorem GoesAlong.base_event (along : GoesAlong r track M d)
    (coarse : track.timebase.denInt ≤ track.timebase.numInt * microsPerSecond)
    (known : track.mediaType ≠ .unknown) (modulus : IsModulus M) {raw : Stamps} {cargo : Cargo}
    (low : IsLow M raw.dts) (formatted : cargo.format? ≠ some .unknown)
    (lossless : Lossless (r, .base track.id raw M cargo)) :
  (r.packets (.base track.id raw M cargo)).map Packet.dts = [d.clock track.timebase raw.dts]
    ∧ GoesAlong (r.next (.base track.id raw M cargo)) track M
        (d.next track.timebase (.base track.id raw M cargo))
  := by
  have found : r.stream.tracks.find? track.id = some track := by
    rw [TrackSet.find?_of_single along.single, if_pos rfl]
  obtain ⟨state, handed⟩ := apply_base along.attached found known formatted raw M
  let p : Rebasing := ⟨r.stream.timeline, track, raw, M⟩
  have exact : p.before.settings.conversion = .exact := along.exact
  have lossless : p.Lossless := lossless track found
  have fits : Saturating.Fits raw.dts := by
    rw [← low.emod_eq]
    apply modulus.fits_emod
  have start : p.start = track.timebase.toMicros .exact (d.originFrom raw.dts) := by
    rw [Rebasing.start, Timeline.startFrom, exact, along.start]
    apply Option.getD_map
  have survives : track.timebase.toTicks .exact
      (track.timebase.toMicros .exact (d.originFrom raw.dts)) = d.originFrom raw.dts := by
    rw [Deck.originFrom]
    cases captured : d.origin? with
    | none =>
      have fresh : p.before.start? = none := by
        rw [along.start, captured]
        rfl
      have fitsMicros := lossless.start fresh
      rw [exact] at fitsMicros
      apply track.timebase.toTicks_toMicros coarse fits fitsMicros
    | some origin => apply along.origin origin captured
  have emitted : p.emitted.dts = d.clock track.timebase raw.dts := by
    have value : p.emitted.dts = p.offset + raw.dts + p.periods .dts * M :=
      lossless.sums.get_emitted
    -- Below the half range no turn is seen, whichever session the origin is from.
    have level : p.periods .dts = 0 := along.unturned.periods_eq modulus .dts low
    rw [value, level, Rebasing.offset, Rebasing.startTicks, start, exact, survives,
      Timeline.baseTicks, exact, along.base, Deck.clock]
    ring
  constructor
  · rw [handed]
    apply congrArg (fun dts => [dts]) emitted
  · rw [state]
    constructor
    · apply along.single
    · apply along.attached
    · apply along.exact
    · apply along.base
    · apply congrArg some start
    · rintro _ ⟨⟩
      apply survives
    · change p.after.last? p.track.id = some (track.timebase.toMicros .exact _)
      rw [p.last?_after, if_pos rfl, Rebasing.last, exact, emitted]
    · change (p.after.odometer .dts p.track.id).Unturned M
      rw [p.odometer_after]
      apply along.unturned.next modulus .dts low
    · apply congrArg (some <| · * 1000000) along.elapsed
    · apply along.elapsed
    · apply along.stopped

/-- A start adds the outage to the base. -/
theorem GoesAlong.start_event (along : GoesAlong r track M d) (lossless : Lossless (r, .start)) :
  GoesAlong (r.next .start) track M (d.next track.timebase .start)
  := by
  have state : r.next .start = { r with stream := (r.stream.start r.now).state } := rfl
  cases heard : d.heard? with
  | none =>
    have unheard : r.stream.lastPacket? = none := by
      rw [along.heard, heard]
      rfl
    have outage : d.outage = 0 := by
      rw [Deck.outage, heard]
      rfl
    rw [state, LiveStream.state_start_of_none unheard, Deck.next, outage, Nat.cast_zero,
      Int.mul_zero, Int.add_zero]
    apply along
  | some last =>
    have heardAt : r.stream.lastPacket? = some (last * 1000000) := by
      rw [along.heard, heard]
      rfl
    have gap : (r.now - last * 1000000) / 1000 = 1000 * d.outage := by
      rw [now, along.elapsed, Deck.outage, heard, Option.elim_some]
      omega
    obtain ⟨fitsGap, fitsBase⟩ := lossless _ heardAt
    rw [gap] at fitsGap fitsBase
    have outage : LiveStream.outageMicros (last * 1000000) r.now = 1000 * d.outage := by
      rw [LiveStream.outageMicros, gap, Int.min_eq_left fitsGap.2]
      rfl
    have known : r.stream.tracks.contains track.id :=
      (TrackSet.contains_of_single along.single _).mpr rfl
    have fits : Saturating.Fits (d.base + 1000 * d.outage) := by
      rw [← along.base]
      apply fitsBase track
      rw [along.single]
      apply List.mem_singleton_self
    rw [state, LiveStream.state_start_of_some heardAt, outage]
    constructor
    · apply along.single
    · apply along.attached
    · apply along.exact
    · change (r.stream.timeline.bridge r.stream.tracks (1000 * d.outage)).base track.id = _
      rw [Timeline.base_bridge, if_pos known, along.base]
      apply Saturating.clamp_of_fits fits
    · apply along.start
    · apply along.origin
    · apply along.last
    · apply along.unturned
    · apply along.heard
    · apply along.elapsed
    · apply along.stopped

/-- A stop ends the epoch the first time. -/
theorem GoesAlong.stop_event (along : GoesAlong r track M d) :
  GoesAlong (r.next .stop) track M (d.next track.timebase .stop)
  := by
  have state : r.next .stop = { r with stream := r.stream.stop.state } := rfl
  rw [state, LiveStream.state_stop, Deck.next]
  by_cases stopped : d.stopped
  · rw [if_pos (along.stopped.mpr stopped), if_pos stopped]
    apply along
  · rw [if_neg (mt along.stopped.mp stopped), if_neg stopped]
    constructor
    · apply along.single
    · apply along.attached
    · apply along.exact
    · have known : r.stream.tracks.contains track.id :=
        (TrackSet.contains_of_single along.single _).mpr rfl
      change (r.stream.timeline.close r.stream.tracks).state.base track.id = _
      rw [Timeline.base_close, if_pos known, Timeline.anchor?_of_single _ along.single, along.last,
        along.base]
      cases d.last? <;> rfl
    · rfl
    · rintro _ ⟨⟩
    · apply along.last
    · change ((r.stream.timeline.close r.stream.tracks).state.odometer .dts track.id).Unturned M
      rw [Timeline.odometer_close]
      split
      · exact ⟨rfl, nofun⟩
      · apply along.unturned
    · apply along.heard
    · apply along.elapsed
    · exact iff_of_true rfl rfl

/-- A replay goes along with its deck from one event to the next, and dispatches what the deck
tells. -/
theorem GoesAlong.step (along : GoesAlong r track M d)
    (coarse : track.timebase.denInt ≤ track.timebase.numInt * microsPerSecond)
    (known : track.mediaType ≠ .unknown) (modulus : IsModulus M) {event : Event}
    (played : event.IsPlayed track.id M) (lossless : Lossless (r, event)) :
  (r.packets event).map Packet.dts = d.clocks track.timebase event
    ∧ GoesAlong (r.next event) track M (d.next track.timebase event)
  := by
  cases event with
  | base id raw other cargo =>
    obtain ⟨rfl, rfl, low, formatted⟩ := played
    apply along.base_event coarse known modulus low formatted lossless
  | start =>
    rw [packets_start]
    exact ⟨rfl, along.start_event lossless⟩
  | stop =>
    rw [packets_stop]
    exact ⟨rfl, along.stop_event⟩
  | sleep ms =>
    constructor
    · rfl
    · constructor
      · apply along.single
      · apply along.attached
      · apply along.exact
      · apply along.base
      · apply along.start
      · apply along.origin
      · apply along.last
      · apply along.unturned
      · apply along.heard
      · apply congrArg (· + ms) along.elapsed
      · apply along.stopped
  | track => cases played
  | delta => cases played

/-- A replay dispatches the clock values of its deck, leg by leg. -/
theorem GoesAlong.dispatchedByLeg (along : GoesAlong r track M d)
    (coarse : track.timebase.denInt ≤ track.timebase.numInt * microsPerSecond)
    (known : track.mediaType ≠ .unknown) (modulus : IsModulus M) {legs : List (List Event)}
    (played : ∀ event ∈ legs.flatten, event.IsPlayed track.id M)
    (lossless : ∀ entry ∈ r.trace legs.flatten, Lossless entry) :
  (r.dispatchedByLeg legs).map (·.map Packet.dts)
    = outputsByLeg (Deck.next track.timebase) (Deck.clocks track.timebase) d legs
  := by
  apply outputsByLeg_of_simulates (R := fun r d => GoesAlong r track M d)
    (P := fun entry => entry.2.IsPlayed track.id M ∧ Lossless entry) _ along
  · intro entry mem
    constructor
    · apply played
      rw [← map_snd_trace Replay.next r legs.flatten]
      apply List.mem_map_of_mem mem
    · apply lossless entry mem
  · rintro r d event along ⟨played, lossless⟩
    apply along.step coarse known modulus played lossless

end MediaClock.Replay
