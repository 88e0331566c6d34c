import MediaClock.Proofs.Timeline.Clock
import MediaClock.Proofs.Timeline.History

/-!
# Where the next epoch begins

Closing an epoch moves the bases to the anchor, and the first packet after it starts the next
epoch.  The anchor is made of clock values, which have the turns of the counters in them
already, but unless the settings say otherwise the odometers stand as they are.  So the packet
resumes at the anchor exactly when its odometers move it by no period.  It is moved by one
for every turn before the anchor, and by another one where the new counter starts so far below
the old one that the half range test takes this for a turn.
-/

namespace MediaClock

/-- That the decode time of a packet is an anchor, and its presentation time as far from it as
the raw ones are from each other. -/
def Rebasing.ResumesAt (r : Rebasing) (anchor : Int) : Prop :=
  r.emitted.dts = r.track.timebase.toTicks .exact anchor
    ∧ r.emitted.pts = r.emitted.dts + (r.raw.pts - r.raw.dts)

instance (r : Rebasing) (anchor : Int) : Decidable (r.ResumesAt anchor) :=
  inferInstanceAs (Decidable (_ ∧ _))

namespace Timeline

/-- Whether a call takes an increment, be it for a running clock or not. -/
def Call.integrates : Call → Bool
  | .advance .. | .increment .. => true
  | _ => false

variable {t : Timeline} {tracks : TrackSet} {calls : List Call} {anchor : Int} {r : Rebasing}

/-- Taking increments changes last values and nothing else. -/
theorem exists_performAll_of_integrates (integrate : ∀ call ∈ calls, call.integrates) :
  ∃ sources lasts, t.performAll calls = { t with sources, lasts }
  := by
  induction calls generalizing t with
  | nil => exact ⟨_, _, rfl⟩
  | cons call calls ih =>
    obtain ⟨first, rest⟩ := List.forall_mem_cons.mp integrate
    obtain ⟨sources, lasts, later⟩ := ih (t := (t.perform call).state) rest
    use sources, lasts
    apply later.trans
    cases call with
    | increment id raw modulus =>
      change { (t.increment id raw modulus).state with sources, lasts } = _
      rw [state_increment]
    | advance id raw modulus =>
      change { (t.advance id raw modulus).state with sources, lasts } = _
      rw [state_advance]
    | _ => cases first

/-- What the first packet of an epoch finds of the one that is closed. -/
theorem close_then_integrate (integrate : ∀ call ∈ calls, call.integrates)
    (anchored : (t.close tracks).answer = some anchor) {id : TrackId}
    (known : tracks.contains id) :
  let next := (t.close tracks).state.performAll calls
  next.settings = t.settings ∧ next.start? = none ∧ next.base id = anchor
    ∧ ∀ field, next.odometer field id
      = if t.settings.clearWraps then ⟨0, none⟩ else t.odometer field id
  := by
  intro next
  obtain ⟨sources, lasts, state⟩ :=
    exists_performAll_of_integrates (t := (t.close tracks).state) integrate
  have base : (t.close tracks).state.base id = anchor := by
    change t.anchor? tracks = some anchor at anchored
    rw [base_close, if_pos known, anchored, Option.getD_some]
  change (t.close tracks).state.performAll calls = _ at state
  simp only [next, state]
  refine ⟨rfl, rfl, base, fun field => ?_⟩
  rw [← odometer_close t tracks]
  cases field <;> rfl

/-- The first packet of an epoch is moved from the anchor by the periods that its odometers
tell, which are those of the closed epoch unless the settings say otherwise.  So it resumes
at the anchor exactly when there are none. -/
theorem resumesAt_iff (t : Timeline) (exact : t.settings.conversion = .exact)
    (tracks : TrackSet) (anchor : Int) (anchored : (t.close tracks).answer = some anchor)
    (calls : List Call) (integrate : ∀ call ∈ calls, call.integrates) (r : Rebasing)
    (met : r.before = (t.close tracks).state.performAll calls)
    (known : tracks.contains r.track.id)
    (coarse : r.track.timebase.denInt ≤ r.track.timebase.numInt * microsPerSecond)
    (modulus : 1 ≤ r.modulus) (fits : Saturating.Fits r.raw.dts)
    (fitsMicros : Saturating.Fits (r.track.timebase.microsOf .exact r.raw.dts))
    (sums : ∀ field, r.Unsaturated field) :
  (r.ResumesAt anchor ↔ ∀ field, r.periods field = 0)
    ∧ (∀ field, r.emitted.get field
      = r.track.timebase.toTicks .exact anchor + (r.raw.get field - r.raw.dts)
        + r.periods field * r.modulus)
    ∧ ∀ field, r.periods field = if t.settings.clearWraps then 0 else
      (t.odometer field r.track.id).periods field r.modulus (r.raw.get field)
  := by
  obtain ⟨settings, fresh, base, odometers⟩ := close_then_integrate integrate anchored known
  rw [← met] at settings fresh base odometers
  rw [← settings] at exact
  have offset : r.offset = r.track.timebase.toTicks .exact anchor - r.raw.dts := by
    rw [Rebasing.offset, Rebasing.startTicks_of_start?_none fresh exact coarse fits fitsMicros,
      baseTicks, base, exact]
  have emitted (field : Field) : r.emitted.get field
      = r.track.timebase.toTicks .exact anchor + (r.raw.get field - r.raw.dts)
        + r.periods field * r.modulus := by
    rw [(sums field).get_emitted, offset]
    ring
  have dts : r.emitted.dts = r.track.timebase.toTicks .exact anchor + (r.raw.dts - r.raw.dts)
      + r.periods .dts * r.modulus := emitted .dts
  have pts : r.emitted.pts = r.track.timebase.toTicks .exact anchor + (r.raw.pts - r.raw.dts)
      + r.periods .pts * r.modulus := emitted .pts
  constructor
  · rw [Rebasing.ResumesAt]
    have unmoved (n : ℕ) : n * r.modulus = 0 ↔ n = 0 := by
      rw [mul_eq_zero, Nat.cast_eq_zero]
      omega
    constructor
    · rintro ⟨atAnchor, apart⟩ field
      apply (unmoved _).mp
      cases field <;> omega
    · intro none
      rw [none .dts] at dts
      rw [none .pts] at pts
      constructor <;> omega
  constructor
  · apply emitted
  · intro field
    rw [Rebasing.periods, Rebasing.odometer, odometers]
    split
    · apply Odometer.periods_of_origin_none rfl
    · rfl

/-- A track on which no turn has been seen. -/
def oneTrack : TrackSet := .ofList [⟨⟨0⟩, .video, .rtmp⟩]

theorem resumesAt_unturned :
  let t := performAll {} [.rebase ⟨⟨0⟩, .video, .rtmp⟩ ⟨120, 100⟩ 1000,
    .rebase ⟨⟨0⟩, .video, .rtmp⟩ ⟨400, 400⟩ 1000]
  let next := (t.close oneTrack).state.performAll [.increment ⟨0⟩ 7 1000]
  (⟨next, ⟨⟨0⟩, .video, .rtmp⟩, ⟨320, 250⟩, 1000⟩ : Rebasing).ResumesAt 300000
  := by
  intro t next
  apply (resumesAt_iff t rfl oneTrack 300000 (by decide) [.increment ⟨0⟩ 7 1000] (by decide) _ rfl
    (by decide) (by decide) (by decide) (by decide) (by decide) _).1.mpr
  · intro field
    cases field <;> decide
  · intro field
    cases field <;> decide

/-- After a turn, a track does not resume at the anchor, although no sum or conversion
saturates: the turn is in the anchor, and counted once more. -/
theorem not_resumesAt_turned :
  let t := performAll {} [.rebase ⟨⟨0⟩, .video, .rtmp⟩ ⟨900, 900⟩ 1000,
    .rebase ⟨⟨0⟩, .video, .rtmp⟩ ⟨50, 50⟩ 1000]
  let r : Rebasing := ⟨(t.close oneTrack).state, ⟨⟨0⟩, .video, .rtmp⟩, ⟨320, 300⟩, 1000⟩
  (t.close oneTrack).answer = some 150000 ∧ r.Lossless ∧ r.Unsaturated .pts
    ∧ r.emitted.dts = 1150 ∧ ¬ r.ResumesAt 150000
  := by
  decide

end Timeline

end MediaClock
