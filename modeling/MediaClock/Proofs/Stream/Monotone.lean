import MediaClock.Proofs.Stream.Epochs
import MediaClock.Proofs.Timeline.Clock

/-!
# Clocks never fall

Take a stream with a single track whose packets are rebased, and whose ticks are no shorter
than a microsecond.  Let the raw decode values of every epoch come from a counter that shows
times which never fall and advance by less than the rest of the half range.  Then the decode
times that the stream emits never fall, whatever else happens to it, and every epoch starts
at the base of the track.
-/

namespace MediaClock.LiveStream

variable {track : Track} {s : LiveStream} {last? : Option Int}

/-! ### Runs -/

/-- What is known of a stream with a single track in the course of a run: the time that it
has last emitted, and within an epoch the modulus and the last true time. -/
structure Clocked (s : LiveStream) (track : Track) (last? : Option Int)
    (time? : Option (Int × Int)) : Prop where
  single : s.tracks.toList = [track]
  keeps : s.timeline.Keeps track last?
  stands : match time? with
    | none => s.timeline.AtStart track last?
    | some (M, d) => s.timeline.AtTime track last? M d

/-- That the packets left of an epoch show a clock, which goes on from the last true time. -/
def ShowsOn (packets : List Rebasing) : Option (Int × Int) → Prop
  | none => ∃ M ds, IsModulus M ∧ IsClock M ds ∧ Shows M ds packets
  | some (M, d) => ∃ ds, IsModulus M ∧ IsClock M (d :: ds) ∧ Shows M ds packets

/-- That an epoch, if it has packets, starts at the base of a track. -/
def StartsAtBase (track : Track) (epoch : List Rebasing) : Prop :=
  ∀ r ∈ epoch.head?, r.emitted.dts = track.timebase.toTicks .exact (r.before.base track.id)

theorem startsAtBase_nil (track : Track) :
  StartsAtBase track []
  := by rintro _ ⟨⟩

variable {time? : Option (Int × Int)}

/-- A stop that closes an epoch brings the stream to the start of the next one. -/
theorem Clocked.of_ends (clocked : Clocked s track last? time?) {call : Call}
    (ends : endsEpoch (s, call)) :
  Clocked (s.perform call).state track last? none
  := by
  cases call with
  | stop =>
    have running : s.phase ≠ .stopped := of_decide_eq_true ends
    have closed : (s.perform .stop).state
        = { s with phase := .stopped, timeline := (s.timeline.close s.tracks).state } := by
      change s.stop.state = _
      rw [stop, if_neg running]
    obtain ⟨keeps, fresh⟩ := clocked.keeps.close clocked.single
    rw [closed]
    exact ⟨clocked.single, keeps, fresh⟩
  | _ => cases ends

/-- A call without a packet that does not close an epoch leaves the stream where it is. -/
theorem Clocked.of_quiet (clocked : Clocked s track last? time?) {call : Call}
    (keeps : call.keepsTracks) (stays : ¬ endsEpoch (s, call))
    (silent : rebasing? (s, call) = none) :
  Clocked (s.perform call).state track last? time?
  := by
  obtain ⟨tracks, timeline | ⟨gap, nonneg, timeline⟩⟩ := perform_of_quiet keeps stays silent
  · constructor
    · rw [tracks, clocked.single]
    · rw [timeline]
      apply clocked.keeps
    · rw [timeline]
      apply clocked.stands
  · constructor
    · rw [tracks, clocked.single]
    · rw [timeline]
      apply clocked.keeps.bridge
    · rw [timeline]
      cases time? with
      | none => apply clocked.stands.bridge clocked.keeps s.tracks nonneg
      | some time => apply clocked.stands.bridge clocked.keeps s.tracks nonneg

/-- A packet emits no earlier time than the one before it, and the first one of an epoch
emits the base of the track. -/
theorem Clocked.emit (clocked : Clocked s track last? time?)
    (coarse : track.timebase.denInt ≤ track.timebase.numInt * microsPerSecond) {call : Call}
    {r : Rebasing} (packet : rebasing? (s, call) = some r) (lossless : r.Lossless)
    {rest : List Rebasing} (shows : ShowsOn (r :: rest) time?) :
  (∀ e ∈ last?, e ≤ r.emitted.dts) ∧ (time? = none → StartsAtBase track (r :: rest))
    ∧ ∃ M d, ShowsOn rest (some (M, d))
      ∧ Clocked (s.perform call).state track (some r.emitted.dts) (some (M, d))
  := by
  obtain ⟨single, keeps, stands⟩ := clocked
  obtain ⟨before, known, state⟩ := perform_of_rebasing? packet
  obtain rfl : r.track = track := by
    rw [TrackSet.find?_of_single single, Option.ite_none_right_eq_some] at known
    exact (Option.some.inj known.2).symm
  rw [← before] at keeps stands
  have onward := keeps.after coarse lossless
  cases time? with
  | none =>
    obtain ⟨M, ds, modulus, clock, shows⟩ := shows
    obtain ⟨d, ds, rfl, rfl, raw, shows⟩ := shows.exists_cons
    obtain ⟨emitted, time⟩ := stands.emit keeps coarse modulus raw lossless
    have base : r.emitted.dts = r.track.timebase.toTicks .exact (r.before.base r.track.id) := by
      rw [emitted, Timeline.baseTicks, keeps.settings]
    constructor
    · intro e mem
      rw [base, ← keeps.lossless e mem]
      apply Timebase.toTicks_mono _ (stands.reached e mem)
    constructor
    · rintro - _ ⟨⟩
      apply base
    · use r.modulus, d
      constructor
      · exact ⟨ds, modulus, clock, shows⟩
      · rw [state]
        exact ⟨single, onward, time⟩
  | some time =>
    obtain ⟨M, x⟩ := time
    obtain ⟨ds, modulus, clock, shows⟩ := shows
    obtain ⟨d, ds, rfl, rfl, raw, shows⟩ := shows.exists_cons
    obtain ⟨near, clock⟩ := List.isChain_cons_cons.mp clock
    obtain ⟨later, time⟩ := stands.emit keeps.settings modulus near raw lossless
    constructor
    · apply later
    constructor
    · intro fresh
      cases fresh
    · use r.modulus, d
      constructor
      · exact ⟨ds, modulus, clock, shows⟩
      · rw [state]
        exact ⟨single, onward, time⟩

/-- What is emitted in the rest of a run never falls below what has been emitted last, and
the epochs that start in it start at the base of the track. -/
theorem Clocked.emissions (clocked : Clocked s track last? time?)
    (coarse : track.timebase.denInt ≤ track.timebase.numInt * microsPerSecond)
    {calls : List Call} (keeps : ∀ call ∈ calls, call.keepsTracks) {head : List Rebasing}
    {tail : List (List Rebasing)} (split : s.epochs calls = head :: tail)
    (shows : ShowsOn head time?) (others : ∀ epoch ∈ tail, ShowsOn epoch none)
    (lossless : ∀ epoch ∈ head :: tail, ∀ r ∈ epoch, r.Lossless) :
  (last?.toList ++ (s.emissions calls).map (·.dts)).IsChain (· ≤ ·)
    ∧ (time? = none → StartsAtBase track head) ∧ ∀ epoch ∈ tail, StartsAtBase track epoch
  := by
  -- The first epoch goes on from where the stream is, and all others start afresh.
  induction calls generalizing s last? time? head tail with
  | nil =>
    obtain ⟨rfl, rfl⟩ := List.cons_eq_cons.mp split
    constructor
    · cases last? with
      | none => exact .nil
      | some e => exact .singleton e
    constructor
    · intro _
      apply startsAtBase_nil
    · rintro _ ⟨⟩
  | cons call calls ih =>
    obtain ⟨first, rest⟩ := List.forall_mem_cons.mp keeps
    obtain ⟨next, later, split'⟩ :=
      List.exists_cons_of_ne_nil ((s.perform call).state.epochs_ne_nil calls)
    rw [emissions_cons]
    by_cases ends : endsEpoch (s, call)
    · rw [epochs_cons_of_ends ends, split'] at split
      obtain ⟨rfl, rfl⟩ := List.cons_eq_cons.mp split
      obtain ⟨showsNext, showsLater⟩ := List.forall_mem_cons.mp others
      obtain ⟨-, losslessNext⟩ := List.forall_mem_cons.mp lossless
      obtain ⟨chain, starts, laterStart⟩ :=
        ih (clocked.of_ends ends) rest split' showsNext showsLater losslessNext
      rw [rebasing?_of_ends ends]
      constructor
      · apply chain
      constructor
      · intro _
        apply startsAtBase_nil
      · exact List.forall_mem_cons.mpr ⟨starts rfl, laterStart⟩
    · rw [epochs_cons_of_not_ends ends, split'] at split
      obtain ⟨rfl, rfl⟩ := List.cons_eq_cons.mp split
      cases packet : rebasing? (s, call) with
      | none =>
        rw [packet] at shows lossless
        apply ih (clocked.of_quiet first ends packet) rest split' shows others lossless
      | some r =>
        rw [packet] at shows lossless
        obtain ⟨losslessHead, losslessLater⟩ := List.forall_mem_cons.mp lossless
        obtain ⟨losslessFirst, losslessNext⟩ := List.forall_mem_cons.mp losslessHead
        obtain ⟨ahead, starts, M, d, shows, clocked⟩ :=
          clocked.emit coarse packet losslessFirst shows
        obtain ⟨chain, -, laterStart⟩ := ih clocked rest split' shows others
          (List.forall_mem_cons.mpr ⟨losslessNext, losslessLater⟩)
        constructor
        · cases last? with
          | none => apply chain
          | some e => exact .cons_cons (ahead e rfl) chain
        · exact ⟨starts, laterStart⟩

/-- The decode times that a stream with a single track emits never fall in any run that
rebases its packets, and each of its epochs starts at the base of the track. -/
theorem dts_monotone (s : LiveStream) (track : Track) (single : s.tracks.toList = [track])
    (fresh : s.timeline = { settings := ⟨.exact, true⟩ })
    (coarse : track.timebase.denInt ≤ track.timebase.numInt * microsPerSecond)
    (calls : List Call) (keeps : ∀ call ∈ calls, call.keepsTracks)
    (shows : ∀ epoch ∈ s.epochs calls,
      ∃ M ds, IsModulus M ∧ IsClock M ds ∧ Shows M ds epoch)
    (lossless : ∀ epoch ∈ s.epochs calls, ∀ r ∈ epoch, r.Lossless) :
  (s.epochs calls).flatten.map Rebasing.emitted = s.emissions calls
    ∧ ((s.emissions calls).map (·.dts)).Pairwise (· ≤ ·)
    ∧ ∀ epoch ∈ s.epochs calls, ∀ r ∈ epoch.head?,
      r.emitted.dts = track.timebase.toTicks .exact (r.before.base track.id)
  := by
  have clocked : Clocked s track none none := by
    constructor
    · apply single
    · rw [fresh]
      have zero : Saturating.Fits 0 := by decide
      exact ⟨rfl, zero, rfl, nofun⟩
    · rw [fresh]
      exact ⟨rfl, rfl, nofun⟩
  obtain ⟨head, tail, split⟩ := List.exists_cons_of_ne_nil (s.epochs_ne_nil calls)
  rw [split] at shows lossless ⊢
  obtain ⟨showsHead, others⟩ := List.forall_mem_cons.mp shows
  obtain ⟨chain, starts, later⟩ :=
    clocked.emissions coarse keeps split showsHead others lossless
  constructor
  · rw [← split]
    apply s.flatten_epochs
  constructor
  · apply List.isChain_iff_pairwise.mp chain
  · exact List.forall_mem_cons.mpr ⟨starts rfl, later⟩

/-- A stream with a video track. -/
def videoStream : LiveStream :=
  ofDescriptor { tracks := .ofList [⟨⟨0⟩, .video, .rtmp⟩] } ⟨.exact, true⟩

/-- A packet of the video track. -/
def videoPacket : Packet where
  msid := 0
  mediaType := .video
  track := ⟨0⟩
  payload := {}
  pts := 0
  dts := 0
  format := .unknown
  type := .relay

/-- Two sessions with an outage in the first one, an instant that lies before the last
packet, and another counter in the second one. -/
def twoSessions : List Call := [
  .attach ⟨"app", "Application", fun _ => true⟩,
  .rebase ⟨0⟩ ⟨900, 900⟩ 1000,
  .send videoPacket 1000000,
  .rebase ⟨0⟩ ⟨100, 100⟩ 1000,
  .start 8000000,
  .rebase ⟨0⟩ ⟨500, 500⟩ 1000,
  .stop,
  .stop,
  .setPhase .playing,
  .start 5,
  .rebase ⟨0⟩ ⟨4000, 4000⟩ 5000,
  .rebase ⟨0⟩ ⟨200, 200⟩ 5000,
  .terminate]

example : (videoStream.emissions twoSessions).map (·.dts) = [0, 200, 607, 607, 1807]
  := by decide

theorem dts_monotone_twoSessions :
  ((videoStream.emissions twoSessions).map (·.dts)).Pairwise (· ≤ ·)
  := by
  obtain ⟨first, second, split, showsFirst, showsSecond⟩ : ∃ first second,
      videoStream.epochs twoSessions = [first, second]
        ∧ Shows 1000 [900, 1100, 1500] first ∧ Shows 5000 [4000, 5200] second := by
    refine ⟨_, _, rfl, ⟨by decide, rfl⟩, ⟨by decide, rfl⟩⟩
  apply (dts_monotone videoStream ⟨⟨0⟩, .video, .rtmp⟩ rfl rfl (by decide) twoSessions
    (by decide) _ (by decide)).2.1
  rw [split, List.forall_mem_cons, List.forall_mem_singleton]
  constructor
  · use 1000, [900, 1100, 1500], ⟨by decide, by decide⟩
    constructor
    · unfold IsClock
      decide
    · apply showsFirst
  · use 5000, [4000, 5200], ⟨by decide, by decide⟩
    constructor
    · unfold IsClock
      decide
    · apply showsSecond

end MediaClock.LiveStream
