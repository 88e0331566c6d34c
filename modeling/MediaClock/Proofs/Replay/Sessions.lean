import MediaClock.Proofs.Replay.Deck

/-!
# Sessions with outages between them

A script of sessions is replayed from one track: a session starts, dispatches its packets and
stops, and some time goes by before the next one.  The first outage is bridged: the second
session resumes after the last clock value of the first one, later by the time that has gone
by.  But nothing takes the stream out of the stopped phase again, so no later stop closes an
epoch.  All sessions after the first one are one epoch, and the clock of a packet there is the
distance of its raw value from the first one of the second session, moved on by all outages so
far.
-/

namespace MediaClock.Replay

/-- A packet of a session. -/
structure Frame where
  raw : Stamps
  /-- The number of octets. -/
  size : Nat := 0
deriving DecidableEq, Repr

/-- The packets of a session, and the time that goes by after it. -/
structure Session where
  first : Frame
  rest : List Frame := []
  /-- In milliseconds. -/
  pauses : List Nat := []
deriving DecidableEq, Repr

/-- The event with a packet. -/
def Frame.event (id : TrackId) (M : Int) (f : Frame) : Event :=
  .base id f.raw M { size := f.size }

namespace Session

/-- The packets of a session. -/
def frames (s : Session) : List Frame := s.first :: s.rest

/-- The last packet of a session. -/
def final (s : Session) : Frame := s.rest.getLastD s.first

/-- The time that goes by after a session, in milliseconds. -/
def pause (s : Session) : Nat := s.pauses.sum

/-- The events of a session. -/
def events (id : TrackId) (M : Int) (s : Session) : List Event :=
  .start :: s.frames.map (Frame.event id M) ++ .stop :: s.pauses.map .sleep

theorem isPlayed_events {id : TrackId} {M : Int} {s : Session}
    (low : ∀ frame ∈ s.frames, IsLow M frame.raw.dts) :
  ∀ event ∈ s.events id M, event.IsPlayed id M
  := by
  rw [events, List.forall_mem_append, List.forall_mem_cons, List.forall_mem_cons,
    List.forall_mem_map, List.forall_mem_map]
  refine ⟨⟨trivial, ?_⟩, trivial, fun _ _ => trivial⟩
  intro frame mem
  exact ⟨rfl, rfl, low frame mem, nofun⟩

end Session

/-! ### Sessions on a deck -/

namespace Deck

variable (timebase : Timebase) (id : TrackId) (M : Int) (d : Deck)

/-- The deck after some events. -/
def playAll (events : List Event) : Deck := events.foldl (next timebase) d

/-- The clock values of some events. -/
def clocksOf (events : List Event) : List Int := outputs (next timebase) (clocks timebase) d events

/-- Where the clock of a track goes on at the next start, in microseconds. -/
def resumption : Int := d.base + 1000 * d.outage

theorem playAll_sleeps (pauses : List Nat) :
  d.playAll timebase (pauses.map .sleep) = { d with elapsed := d.elapsed + pauses.sum }
    ∧ d.clocksOf timebase (pauses.map .sleep) = []
  := by
  induction pauses generalizing d with
  | nil => exact ⟨rfl, rfl⟩
  | cons ms pauses ih =>
    obtain ⟨state, clocks⟩ := ih (d.next timebase (.sleep ms))
    constructor
    · apply state.trans
      rw [List.sum_cons, ← Nat.add_assoc]
      rfl
    · apply clocks

/-- The packets of a session are as far from each other on the clock as their raw values. -/
theorem playAll_frames (first : Frame) (rest : List Frame) :
  d.playAll timebase ((first :: rest).map (Frame.event id M))
      = { d with
          origin? := some (d.originFrom first.raw.dts)
          last? := some (timebase.toTicks .exact d.base
            + ((rest.getLastD first).raw.dts - d.originFrom first.raw.dts))
          heard? := some d.elapsed }
    ∧ d.clocksOf timebase ((first :: rest).map (Frame.event id M))
      = (first :: rest).map fun frame =>
        timebase.toTicks .exact d.base + (frame.raw.dts - d.originFrom first.raw.dts)
  := by
  induction rest generalizing d first with
  | nil => exact ⟨rfl, rfl⟩
  | cons second rest ih =>
    obtain ⟨state, clocks⟩ := ih (d.next timebase (first.event id M)) second
    constructor
    · apply state.trans
      rw [List.getLastD_cons]
      rfl
    · apply congrArg (d.clock timebase first.raw.dts :: ·) clocks

/-- What a session leaves behind, and the clock values in it. -/
theorem playAll_session (s : Session) :
  let origin := d.originFrom s.first.raw.dts
  let last := timebase.toTicks .exact d.resumption + (s.final.raw.dts - origin)
  d.playAll timebase (s.events id M)
      = { base := if d.stopped then d.resumption else timebase.toMicros .exact last
          origin? := if d.stopped then some origin else none
          last? := some last
          heard? := some d.elapsed
          elapsed := d.elapsed + s.pause
          stopped := true }
    ∧ d.clocksOf timebase (s.events id M)
      = s.frames.map fun frame =>
        timebase.toTicks .exact d.resumption + (frame.raw.dts - origin)
  := by
  intro origin last
  obtain ⟨framesState, framesClocks⟩ :=
    playAll_frames timebase id M (d.next timebase .start) s.first s.rest
  let ended := ((d.next timebase .start).playAll timebase
    (s.frames.map (Frame.event id M))).next timebase .stop
  obtain ⟨pausesState, pausesClocks⟩ := playAll_sleeps timebase ended s.pauses
  have endedState : ended = { d with
      base := if d.stopped then d.resumption else timebase.toMicros .exact last
      origin? := if d.stopped then some origin else none
      last? := some last
      heard? := some d.elapsed
      stopped := true } := by
    change Deck.next timebase (playAll timebase _ ((s.first :: s.rest).map _)) .stop = _
    rw [framesState]
    -- Only the stop tells a stopped deck from a running one.
    change (if d.stopped then _ else _) = _
    cases stopped : d.stopped with
    | true =>
      rw [if_pos rfl, if_pos rfl, if_pos rfl, ← stopped]
      rfl
    | false => rfl
  constructor
  · rw [Session.events, playAll, List.foldl_append]
    apply pausesState.trans
    rw [endedState]
    rfl
  · rw [Session.events, clocksOf, outputs_append]
    change clocksOf timebase (d.next timebase .start) ((s.first :: s.rest).map _)
      ++ clocksOf timebase ended (s.pauses.map .sleep) = _
    rw [framesClocks, pausesClocks, List.append_nil]
    rfl

/-- The sessions after a stop are one epoch, whose clock is moved on by every outage. -/
theorem clocks_later_sessions (sessions : List Session) (stopped : d.stopped) (origin : Int)
    (from_origin : ∀ s ∈ sessions.head?, d.originFrom s.first.raw.dts = origin) :
  outputsByLeg (next timebase) (clocks timebase) d (sessions.map (Session.events id M))
    = sessions.mapIdx fun k s => s.frames.map fun frame =>
      timebase.toTicks .exact
          (d.resumption + 1000 * (((sessions.take k).map Session.pause).sum : ℕ))
        + (frame.raw.dts - origin)
  := by
  induction sessions generalizing d with
  | nil => rfl
  | cons s rest ih =>
    -- The session leaves a stopped deck behind, with the same origin and a later resumption.
    obtain ⟨state, clocks⟩ := playAll_session timebase id M d s
    rw [from_origin s rfl, if_pos stopped, if_pos stopped] at state
    rw [from_origin s rfl] at clocks
    have later := ih (d.playAll timebase (s.events id M)) (by rw [state]) (by
      intro _ _
      rw [state]
      rfl)
    have onward : (d.playAll timebase (s.events id M)).resumption
        = d.resumption + 1000 * s.pause := by
      rw [state]
      simp [resumption, outage]
    rw [List.map_cons, outputsByLeg, List.mapIdx_cons]
    apply List.cons_eq_cons.mpr
    constructor
    · apply clocks.trans
      simp only [List.take_zero, List.map_nil, List.sum_nil, Nat.cast_zero, mul_zero, add_zero]
    · apply later.trans
      simp only [onward, List.take_succ_cons, List.map_cons, List.sum_cons, Nat.cast_add, mul_add,
        add_assoc]

/-- The first session starts at zero, and closes its epoch. -/
theorem clocks_sessions (first second : Session) (later : List Session) :
  outputsByLeg (next timebase) (clocks timebase) {}
      ((first :: second :: later).map (Session.events id M))
    = (first.frames.map fun frame => frame.raw.dts - first.first.raw.dts)
      :: (second :: later).mapIdx fun k s => s.frames.map fun frame =>
        timebase.toTicks .exact
            (timebase.toMicros .exact (first.final.raw.dts - first.first.raw.dts)
              + 1000 * ((((first :: second :: later).take (k + 1)).map Session.pause).sum : ℕ))
          + (frame.raw.dts - second.first.raw.dts)
  := by
  obtain ⟨state, clocks⟩ := playAll_session timebase id M {} first
  have zero : timebase.toTicks .exact (resumption {}) = 0 := timebase.toTicks_zero
  have fresh (raw : Int) : originFrom {} raw = raw := rfl
  simp only [zero, fresh, zero_add, Bool.false_eq_true, if_false] at state clocks
  have resumed : (playAll timebase {} (first.events id M)).resumption
      = timebase.toMicros .exact (first.final.raw.dts - first.first.raw.dts)
        + 1000 * first.pause := by
    rw [state]
    simp [resumption, outage]
  have onward := clocks_later_sessions timebase id M (playAll timebase {} (first.events id M))
    (second :: later) (by rw [state]) second.first.raw.dts (by
      rintro _ ⟨⟩
      rw [state]
      rfl)
  rw [List.map_cons, outputsByLeg]
  apply List.cons_eq_cons.mpr
  constructor
  · apply clocks
  · apply onward.trans
    simp only [resumed, List.take_succ_cons, List.map_cons, List.sum_cons, Nat.cast_add, mul_add,
      add_assoc]

end Deck

/-! ### Scripts of sessions -/

/-- A replay with a single track starts with a deck on which nothing has been played. -/
theorem goesAlong_first_track {settings : Timeline.Settings} (exact : settings.conversion = .exact)
    (track : Track) (M : Int) :
  GoesAlong ((ofSettings settings).next (trackEvent track)) track M {}
  := by
  rw [(apply_trackEvent _ track).1]
  constructor
  · rfl
  · rfl
  · apply exact
  · rfl
  · rfl
  · rintro _ ⟨⟩
  · rfl
  · exact ⟨rfl, nofun⟩
  · rfl
  · rfl
  · exact iff_of_false nofun nofun

/-- That a leg of a script begins with the last clock value of the leg before it, moved on by
an outage of some milliseconds. -/
def Bridged (timebase : Timebase) (clocks : List (List Int)) (leg : ℕ) (outage : ℕ) : Prop :=
  ∃ earlier ∈ clocks[leg]?, ∃ last ∈ earlier.getLast?, ∃ later ∈ clocks[leg + 1]?,
    later.head? = some (timebase.toTicks .exact (timebase.toMicros .exact last + 1000 * outage))

instance (timebase : Timebase) (clocks : List (List Int)) (leg outage : ℕ) :
    Decidable (Bridged timebase clocks leg outage) :=
  inferInstanceAs (Decidable (∃ _ ∈ _, ∃ _ ∈ _, ∃ _ ∈ _, _))

/-- The program prints the packets of a script of sessions.  The decode times of the first
session start at zero.  The first outage is bridged, and all sessions after it are one epoch
that is moved on by every outage. -/
theorem first_outage_bridged (options : Program.Options) (settings : Settings)
    (exact : settings.clock.conversion = .exact) (track : Track)
    (coarse : track.timebase.denInt ≤ track.timebase.numInt * microsPerSecond)
    (known : track.mediaType ≠ .unknown) (M : Int) (modulus : IsModulus M)
    (first second : Session) (later : List Session)
    (low : ∀ s ∈ first :: second :: later, ∀ frame ∈ s.frames, IsLow M frame.raw.dts)
    (script : List UInt8)
    (read : events? (Script.lines script) = some (trackEvent track
      :: ((first :: second :: later).map (Session.events track.id M)).flatten))
    (lossless : ∀ entry ∈ ((ofSettings settings.clock).next (trackEvent track)).trace
      ((first :: second :: later).map (Session.events track.id M)).flatten, Lossless entry) :
  let played := ((ofSettings settings.clock).next (trackEvent track)).dispatchedByLeg
    ((first :: second :: later).map (Session.events track.id M))
  (Program.replay options settings script).failure? = none
    ∧ (Program.replay options settings script).packets = played.flatten.map packetLine
    ∧ Bridged track.timebase (played.map (·.map Packet.dts)) 0 first.pause
    ∧ played.map (·.map Packet.dts)
      = (first.frames.map fun frame => frame.raw.dts - first.first.raw.dts)
        :: (second :: later).mapIdx fun k s => s.frames.map fun frame =>
          track.timebase.toTicks .exact
              (track.timebase.toMicros .exact (first.final.raw.dts - first.first.raw.dts)
                + 1000 * ((((first :: second :: later).take (k + 1)).map Session.pause).sum : ℕ))
            + (frame.raw.dts - second.first.raw.dts)
  := by
  intro played
  obtain ⟨complete, printed⟩ := replay_of_events?
    ([trackEvent track] :: (first :: second :: later).map (Session.events track.id M)) read
    options settings
  have isPlayed : ∀ event ∈ ((first :: second :: later).map (Session.events track.id M)).flatten,
      event.IsPlayed track.id M := by
    intro event mem
    obtain ⟨_, session, mem⟩ := List.mem_flatten.mp mem
    obtain ⟨s, inside, rfl⟩ := List.mem_map.mp session
    apply s.isPlayed_events (low s inside) event mem
  have clocks : played.map (·.map Packet.dts) = _ :=
    ((goesAlong_first_track exact track M).dispatchedByLeg coarse known modulus isPlayed
      lossless).trans (Deck.clocks_sessions track.timebase track.id M first second later)
  constructor
  · apply complete
  constructor
  · rw [printed]
    change (((ofSettings settings.clock).packets (trackEvent track) ++ []) ++ _).map _ = _
    rw [(apply_trackEvent _ track).2]
    rfl
  constructor
  · have final : (first.frames.map fun frame => frame.raw.dts - first.first.raw.dts).getLast?
        = some (first.final.raw.dts - first.first.raw.dts) := by
      rw [List.getLast?_map, Session.frames, List.getLast?_cons, Session.final,
        List.getLastD_eq_getLast?]
      rfl
    rw [clocks, List.mapIdx_cons]
    refine ⟨_, rfl, _, final, _, rfl, ?_⟩
    simp [Session.frames]
  · apply clocks

/-! ### Three sessions -/

/-- A video track. -/
def video : Track := ⟨⟨0⟩, .video, .rtmp⟩

/-- Three sessions of a video track, with an outage of five seconds and one of two seconds. -/
def threeSessions : List Session := [
  { first := ⟨⟨0, 0⟩, 0⟩, rest := [⟨⟨1000, 1000⟩, 0⟩], pauses := [5000] },
  { first := ⟨⟨500, 500⟩, 0⟩, pauses := [2000] },
  { first := ⟨⟨100, 100⟩, 0⟩ }]

/-- The script of the three sessions. -/
def threeSessionsScript : List UInt8 :=
  "[\"track\",0,\"video\",1,1000]
[\"start\"]
[\"base\",0,0,0,9000]
[\"base\",0,1000,1000,9000]
[\"stop\"]
[\"sleep_ms\",5000]
[\"start\"]
[\"base\",0,500,500,9000]
[\"stop\"]
[\"sleep_ms\",2000]
[\"start\"]
[\"base\",0,100,100,9000]
[\"stop\"]".toUTF8.toList

/-- The events of the three sessions, session by session. -/
def threeLegs : List (List Event) := threeSessions.map (Session.events ⟨0⟩ 9000)

/-- A replay that has read of the video track. -/
def videoReplay : Replay := (ofSettings {}).next (trackEvent video)

theorem read_threeSessionsScript :
  events? (Script.lines threeSessionsScript) = some (trackEvent video :: threeLegs.flatten)
  := by
  decide +kernel

theorem lossless_threeSessions :
  ∀ entry ∈ videoReplay.trace threeLegs.flatten, Lossless entry
  := by
  decide +kernel

theorem first_outage_bridged_threeSessions :
  let played := videoReplay.dispatchedByLeg threeLegs
  (Program.replay {} {} threeSessionsScript).packets = played.flatten.map packetLine
    ∧ Bridged .rtmp (played.map (·.map Packet.dts)) 0 5000
  := by
  obtain ⟨-, printed, bridged, -⟩ := first_outage_bridged {} {} rfl video (by decide) (by decide)
    9000 ⟨by decide, by decide⟩ _ _ _ (by decide) threeSessionsScript read_threeSessionsScript
    lossless_threeSessions
  exact ⟨printed, bridged⟩

/-- The second outage is not bridged, although nothing saturates: the stop before it closes no
epoch, and the third session goes on from where its raw values lie in the second one. -/
theorem second_outage_not_bridged :
  let clocks := (videoReplay.dispatchedByLeg threeLegs).map (·.map Packet.dts)
  events? (Script.lines threeSessionsScript) = some (trackEvent video :: threeLegs.flatten)
    ∧ (∀ entry ∈ videoReplay.trace threeLegs.flatten, Lossless entry)
    ∧ (∀ s ∈ threeSessions, ∀ frame ∈ s.frames, IsLow 9000 frame.raw.dts)
    ∧ clocks = [[0, 1000], [6000], [7600]] ∧ ¬ Bridged .rtmp clocks 1 2000
  := by
  refine ⟨read_threeSessionsScript, lossless_threeSessions, ?_⟩
  decide +kernel

end MediaClock.Replay
