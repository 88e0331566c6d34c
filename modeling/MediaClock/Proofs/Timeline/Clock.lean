import MediaClock.Proofs.Rounding
import MediaClock.Proofs.Timeline.Runs

/-!
# The clock of a track

A counter shows times which never fall and advance by less than the rest of the half range.
While a timeline rebases the packets of one track from it, the last emitted time is at most
what the clock would show of the last true time if it came once more, and raising the base
only moves this up.  An epoch that is closed leaves its last emitted time behind as the base,
in microseconds, and from there the next epoch starts at no earlier time, if no tick is lost
on the way to microseconds and back.
-/

namespace MediaClock

/-! ### What an epoch takes in -/

/-- Times that never fall and advance by less than the rest of the half range. -/
def IsClock (M : Int) (ds : List Int) : Prop :=
  ds.IsChain fun x y => x ≤ y ∧ y - x < M - M / 2

/-- That the raw decode values of packets are what a counter shows of some times. -/
structure Shows (M : Int) (ds : List Int) (packets : List Rebasing) : Prop where
  modulus : ∀ r ∈ packets, r.modulus = M
  raw : packets.map (·.raw.dts) = ds.map (· % M)

/-- The first packet shows the first time. -/
theorem Shows.exists_cons {M : Int} {ds : List Int} {r : Rebasing} {packets : List Rebasing}
    (shows : Shows M ds (r :: packets)) :
  ∃ d rest, ds = d :: rest ∧ r.modulus = M ∧ r.raw.dts = d % M ∧ Shows M rest packets
  := by
  obtain ⟨modulus, raw⟩ := shows
  obtain ⟨own, others⟩ := List.forall_mem_cons.mp modulus
  cases ds with
  | nil => cases raw
  | cons d rest =>
    obtain ⟨head, tail⟩ := List.cons_eq_cons.mp raw
    exact ⟨d, rest, rfl, own, head, others, tail⟩

namespace Rebasing

/-- That neither the sums nor the conversions behind the decode time of a packet saturate. -/
structure Lossless (r : Rebasing) : Prop where
  sums : r.Unsaturated .dts
  start : r.before.start? = none →
    Saturating.Fits (r.track.timebase.microsOf r.before.settings.conversion r.raw.dts)
  last : Saturating.Fits (r.track.timebase.microsOf r.before.settings.conversion r.emitted.dts)

instance (r : Rebasing) : Decidable r.Lossless :=
  decidable_of_iff (_ ∧ (_ → _) ∧ _) ⟨fun ⟨a, b, c⟩ => ⟨a, b, c⟩, fun ⟨a, b, c⟩ => ⟨a, b, c⟩⟩

theorem fits_emitted (r : Rebasing) :
  Saturating.Fits r.emitted.dts
  := Saturating.fits_clamp _

/-- The first packet of an epoch starts it at its raw decode time, if no tick is lost on the
way to microseconds and back. -/
theorem startTicks_of_start?_none {r : Rebasing} (fresh : r.before.start? = none)
    (exact : r.before.settings.conversion = .exact)
    (coarse : r.track.timebase.denInt ≤ r.track.timebase.numInt * microsPerSecond)
    (fits : Saturating.Fits r.raw.dts)
    (fitsMicros : Saturating.Fits (r.track.timebase.microsOf .exact r.raw.dts)) :
  r.startTicks = r.raw.dts
  := by
  rw [startTicks, start, Timeline.startFrom, fresh, Option.getD_none, exact]
  apply Timebase.toTicks_toMicros _ coarse fits fitsMicros

end Rebasing

namespace Timeline

variable {track : Track} {t : Timeline} {tracks : TrackSet} {last? : Option Int} {M d : Int}

/-! ### The clock of the track -/

/-- That a timeline keeps the clock of a track, which has last emitted a given time. -/
structure Keeps (t : Timeline) (track : Track) (last? : Option Int) : Prop where
  settings : t.settings = ⟨.exact, true⟩
  fits : Saturating.Fits (t.base track.id)
  last : t.last? track.id = last?.map (track.timebase.toMicros .exact)
  /-- No tick is lost on the way to microseconds and back. -/
  lossless : ∀ e ∈ last?, track.timebase.toTicks .exact (track.timebase.toMicros .exact e) = e

/-- That a timeline is at the start of an epoch, with its base no earlier than the last
emitted time. -/
structure AtStart (t : Timeline) (track : Track) (last? : Option Int) : Prop where
  start : t.start? = none
  odometer : t.odometer .dts track.id = ⟨0, none⟩
  reached : ∀ e ∈ last?, track.timebase.toMicros .exact e ≤ t.base track.id

/-- That a timeline has reached the true time `d` of an epoch, which its clock would now show
no earlier than the last emitted time. -/
def AtTime (t : Timeline) (track : Track) (last? : Option Int) (M d : Int) : Prop :=
  ∃ start q, t.start? = some start ∧ (t.odometer .dts track.id).Reads M q d
    ∧ ∀ e ∈ last?, e ≤ t.baseTicks track - track.timebase.toTicks .exact start + d - q * M

/-! ### Packets -/

section Packets

variable {r : Rebasing}

theorem Keeps.after (keeps : Keeps r.before r.track last?)
    (coarse : r.track.timebase.denInt ≤ r.track.timebase.numInt * microsPerSecond)
    (lossless : r.Lossless) :
  Keeps r.after r.track (some r.emitted.dts)
  := by
  constructor
  · apply (settings_rebase _ _ _ _).trans keeps.settings
  · apply keeps.fits
  · rw [Rebasing.after, last?_rebase, if_pos rfl, keeps.settings, Option.map_some,
      Rebasing.emitted]
  · rintro _ ⟨⟩
    have fits := lossless.last
    rw [keeps.settings] at fits
    apply Timebase.toTicks_toMicros _ coarse r.fits_emitted fits

/-- The first packet of an epoch emits the base of the track. -/
theorem AtStart.emit (fresh : AtStart r.before r.track last?)
    (keeps : Keeps r.before r.track last?)
    (coarse : r.track.timebase.denInt ≤ r.track.timebase.numInt * microsPerSecond)
    (modulus : IsModulus r.modulus) (raw : r.raw.dts = d % r.modulus) (lossless : r.Lossless) :
  r.emitted.dts = r.before.baseTicks r.track
    ∧ AtTime r.after r.track (some r.emitted.dts) r.modulus d
  := by
  have exact : r.before.settings.conversion = .exact := by rw [keeps.settings]
  have startTicks : r.startTicks = r.raw.dts := by
    have fits := lossless.start fresh.start
    rw [exact] at fits
    apply Rebasing.startTicks_of_start?_none fresh.start exact coarse _ fits
    rw [raw]
    apply modulus.fits_emod
  have emitted : r.emitted.dts = r.before.baseTicks r.track := by
    have value : r.emitted.dts = r.offset + r.raw.dts + r.periods .dts * r.modulus :=
      lossless.sums.get_emitted
    rw [Rebasing.periods, Rebasing.odometer, fresh.odometer,
      Odometer.periods_of_origin_none rfl, Rebasing.offset, startTicks, Nat.cast_zero,
      Int.zero_mul] at value
    omega
  constructor
  · apply emitted
  · use r.start, d / r.modulus, r.start?_after
    constructor
    · have reads :=
        Odometer.reads_next_of_origin_none (o := ⟨0, none⟩) (M := r.modulus) rfl .dts d
      rw [r.odometer_after, Rebasing.odometer, fresh.odometer]
      rw [Nat.cast_zero, Int.sub_zero, ← raw] at reads
      apply reads
    · rintro _ ⟨⟩
      rw [Rebasing.startTicks, exact] at startTicks
      rw [emitted, startTicks, raw, r.baseTicks_after, Int.emod_def, Int.mul_comm]
      omega

/-- The next packet of an epoch emits no earlier time. -/
theorem AtTime.emit {x : Int} (time : AtTime r.before r.track last? r.modulus x)
    (settings : r.before.settings = ⟨.exact, true⟩) (modulus : IsModulus r.modulus)
    (clock : x ≤ d ∧ d - x < r.modulus - r.modulus / 2) (raw : r.raw.dts = d % r.modulus)
    (lossless : r.Lossless) :
  (∀ e ∈ last?, e ≤ r.emitted.dts)
    ∧ AtTime r.after r.track (some r.emitted.dts) r.modulus d
  := by
  obtain ⟨start, q, captured, reads, reached⟩ := time
  obtain ⟨ahead, near⟩ := clock
  have follows : Field.dts.Follows r.modulus q x d := ahead
  have tells := Field.tells_dts_of_near modulus.pos q ahead near
  have start_eq : r.start = start := by
    rw [Rebasing.start, startFrom, captured]
    apply Option.getD_some
  have emitted : r.emitted.dts = r.before.baseTicks r.track
      - r.track.timebase.toTicks .exact start + d - q * r.modulus := by
    have value : r.emitted.dts = r.offset + d - q * r.modulus := by
      apply lossless.sums.get_emitted_of_true raw
      rw [Rebasing.periods]
      change ((r.before.odometer .dts r.track.id).periods .dts r.modulus r.raw.dts : Int) = _
      rw [raw]
      apply (reads.periods_eq_iff modulus follows).mpr tells
    rw [value, Rebasing.offset, Rebasing.startTicks, start_eq, settings]
  constructor
  · intro e mem
    rw [emitted]
    apply (reached e mem).trans
    apply Int.sub_le_sub_right (Int.add_le_add_left ahead _)
  · use start, q
    constructor
    · rw [r.start?_after, start_eq]
    constructor
    · have next := reads.next modulus follows tells
      rw [← raw] at next
      rw [r.odometer_after]
      apply next
    · rintro _ ⟨⟩
      rw [emitted, r.baseTicks_after]

end Packets

/-! ### Outages -/

theorem Keeps.bridge (keeps : Keeps t track last?) (tracks : TrackSet) (gap : Int) :
  Keeps (t.bridge tracks gap) track last?
  where
  settings := keeps.settings
  fits := by
    rw [base_bridge]
    split
    · apply Saturating.fits_clamp
    · apply keeps.fits
  last := keeps.last
  lossless := keeps.lossless

theorem AtStart.bridge (fresh : AtStart t track last?) (keeps : Keeps t track last?)
    (tracks : TrackSet) {gap : Int} (nonneg : 0 ≤ gap) :
  AtStart (t.bridge tracks gap) track last?
  where
  start := fresh.start
  odometer := fresh.odometer
  reached e mem := (fresh.reached e mem).trans (base_le_bridge keeps.fits tracks nonneg)

theorem AtTime.bridge (time : AtTime t track last? M d) (keeps : Keeps t track last?)
    (tracks : TrackSet) {gap : Int} (nonneg : 0 ≤ gap) :
  AtTime (t.bridge tracks gap) track last? M d
  := by
  obtain ⟨start, q, captured, reads, reached⟩ := time
  use start, q, captured, reads
  intro e mem
  have raised : t.baseTicks track ≤ (t.bridge tracks gap).baseTicks track := by
    rw [baseTicks, baseTicks, (keeps.bridge tracks gap).settings, keeps.settings]
    apply Timebase.toTicks_mono
    apply base_le_bridge keeps.fits tracks nonneg
  have := reached e mem
  omega

/-! ### Closed epochs -/

/-- Closing an epoch leaves the last emitted time behind as the base. -/
theorem Keeps.close (keeps : Keeps t track last?) (single : tracks.toList = [track]) :
  Keeps (t.close tracks).state track last? ∧ AtStart (t.close tracks).state track last?
  := by
  have base : (t.close tracks).state.base track.id
      = (last?.map (track.timebase.toMicros .exact)).getD (t.base track.id) := by
    have known : tracks.contains track.id := (TrackSet.contains_of_single single _).mpr rfl
    rw [base_close, if_pos known, anchor?_of_single t single, keeps.last]
  constructor
  · constructor
    · apply keeps.settings
    · rw [base]
      cases last? with
      | none => apply keeps.fits
      | some e =>
        rw [Option.map_some, Option.getD_some]
        apply Timebase.fits_toMicros
    · apply keeps.last
    · apply keeps.lossless
  · constructor
    · rfl
    · rw [odometer_close, keeps.settings]
      rfl
    · rintro e ⟨⟩
      rw [base, Option.map_some, Option.getD_some]

end Timeline

end MediaClock
