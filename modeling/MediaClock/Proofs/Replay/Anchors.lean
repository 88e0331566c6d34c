import MediaClock.Proofs.Replay.Runs
import MediaClock.Proofs.Stream.Entries
import MediaClock.Proofs.Stream.Lifecycle

/-!
# Anchors of a replay

An event that rebases a packet leaves the clock value of its decode timestamp behind in
microseconds, and an event that advances a running clock leaves the clock behind as it is, which
is in ticks of the timebase.  A stop takes the smallest of the last clock values for an anchor,
whichever way they came about.  So the anchor is the earliest of the times that the tracks have
come to only as far as the running clocks do not get in its way; they do not if their ticks are
microseconds.
-/

namespace MediaClock.Replay

/-! ### Lines of a script -/

/-- The event that a line of a script is, if it is one. -/
def event? (line : String) : Option Event :=
  if Text.isBlank line then none else Event.ofLine? line

/-- The replay after some events. -/
def nextAll (r : Replay) (events : List Event) : Replay := events.foldl next r

theorem nextAll_concat (r : Replay) (events : List Event) (event : Event) :
  r.nextAll (events ++ [event]) = (r.nextAll events).next event
  := List.foldl_append

/-- A line that is no event changes nothing. -/
theorem state_applyLine (r : Replay) (line : String) :
  (r.applyLine line).state = (event? line).elim r r.next
  := by
  rw [applyLine, event?]
  split
  · rfl
  · cases Event.ofLine? line <;> rfl

/-- The lines of a script lead where the events among them lead. -/
theorem state_run (r : Replay) (number : Nat) (lines : List String) :
  (r.run number (lines.map some)).state = r.nextAll (lines.filterMap event?)
  := by
  induction lines generalizing r number with
  | nil => rfl
  | cons line lines ih =>
    change ((r.applyLine line).state.run (number + 1) (lines.map some)).state = _
    rw [ih, state_applyLine, List.filterMap_cons]
    cases event? line <;> rfl

/-! ### Streams of a replay -/

/-- A packet is dispatched by a call of the stream, if it is dispatched at all. -/
theorem exists_stream_dispatch (track : TrackId) (cargo : Cargo)
    (step : Step Replay LiveStream.Notice (Except Error Stamps)) :
  ∃ calls, (dispatch track cargo step).state.stream = step.state.stream.performAll calls
  := by
  obtain ⟨answer, r, notices⟩ := step
  cases answer with
  | error e =>
    use []
    rfl
  | ok clock =>
    use [.send (r.packet track clock cargo) r.now]
    rfl

/-- An event is carried out by calls of the stream. -/
theorem exists_stream_next (r : Replay) (event : Event) :
  ∃ calls, (r.next event).stream = r.stream.performAll calls
  := by
  cases event with
  | track id mediaType num den =>
    rw [next, apply]
    cases Timebase.ofFraction num den with
    | error e =>
      use []
      rfl
    | ok timebase =>
      use [.addTrack ⟨id, mediaType, timebase⟩]
      rfl
  | start =>
    use [.start r.now]
    rfl
  | stop =>
    use [.stop]
    rfl
  | base id raw modulus cargo =>
    obtain ⟨calls, later⟩ := exists_stream_dispatch id cargo
      (r.ofStream (r.stream.rebase id raw modulus))
    use .rebase id raw modulus :: calls
    exact later
  | delta id raw modulus cargo =>
    obtain ⟨calls, later⟩ := exists_stream_dispatch id cargo
      ((r.ofStream (r.stream.advance id raw modulus)).answering (·.map fun clock => ⟨clock, clock⟩))
    use .advance id raw modulus :: calls
    exact later
  | sleep =>
    use []
    rfl

/-- The stream of a replay comes about by calls of a new one. -/
theorem exists_stream_nextAll (settings : Timeline.Settings) (events : List Event) :
  ∃ calls, ((ofSettings settings).nextAll events).stream
    = (LiveStream.ofDescriptor descriptor settings).performAll calls
  := by
  induction events using List.reverseRecOn with
  | nil =>
    use [.attach application]
    rfl
  | append_singleton events event ih =>
    obtain ⟨earlier, before⟩ := ih
    obtain ⟨later, after⟩ := exists_stream_next ((ofSettings settings).nextAll events) event
    use earlier ++ later
    rw [nextAll_concat, after, before]
    exact List.foldl_append.symm

theorem settings_nextAll (settings : Timeline.Settings) (events : List Event) :
  ((ofSettings settings).nextAll events).stream.timeline.settings = settings
  := by
  obtain ⟨calls, reached⟩ := exists_stream_nextAll settings events
  rw [reached, LiveStream.settings_performAll]
  rfl

/-- The tracks with a last clock value are tracks of the stream. -/
theorem contains_of_last? {settings : Timeline.Settings} {events : List Event} {id : TrackId}
    {value : Int}
    (last : ((ofSettings settings).nextAll events).stream.timeline.last? id = some value) :
  ((ofSettings settings).nextAll events).stream.tracks.contains id
  := by
  obtain ⟨calls, reached⟩ := exists_stream_nextAll settings events
  apply KeyedList.mem_keys.mp
  rw [reached] at last ⊢
  apply (LiveStream.isWithin_performAll (Timeline.isWithin_new settings _) calls).lasts
  apply TrackMap.mem_keys_of_get? last

/-! ### Clock values of events -/

/-- A clock value that an event gives its track. -/
structure Clocking where
  track : Track
  /-- The clock value of the decode timestamp, in the timebase of the track. -/
  dts : Int
  /-- Whether it is that of a running clock. -/
  integrated : Bool
deriving DecidableEq

namespace Clocking

variable (conversion : Conversion) (c : Clocking)

/-- The time of the clock value, in microseconds. -/
def micros : Int := c.track.timebase.toMicros conversion c.dts

/-- The last clock value that is left behind for the track. -/
def kept : Int := if c.integrated then c.dts else c.micros conversion

end Clocking

/-- The clock value that an event gives its track, if it gives one. -/
def clocking? : Replay × Event → Option Clocking
  | (r, .base id raw modulus _) => (r.stream.tracks.find? id).map fun track =>
    ⟨track, (r.stream.timeline.rebase track raw modulus).answer.dts, false⟩
  | (r, .delta id raw modulus _) => (r.stream.tracks.find? id).map fun track =>
    ⟨track, (r.stream.timeline.advance id raw modulus).answer, true⟩
  | _ => none

/-- The clock values that the tracks are given in the course of some events. -/
def clockings (r : Replay) (events : List Event) : List Clocking :=
  (r.trace events).filterMap clocking?

/-- The latest clock value of a track. -/
def latest? (r : Replay) (events : List Event) (id : TrackId) : Option Clocking :=
  ((r.clockings events).filter (·.track.id = id)).getLast?

/-- The latest clock values of all tracks that have one. -/
def latests (r : Replay) (events : List Event) : Set Clocking :=
  {c | r.latest? events c.track.id = some c}

theorem latest?_concat (r : Replay) (events : List Event) (event : Event) (id : TrackId) :
  r.latest? (events ++ [event]) id
    = ((clocking? (r.nextAll events, event)).filter (·.track.id = id)).or (r.latest? events id)
  := by
  have traced : r.trace (events ++ [event]) = r.trace events ++ [(r.nextAll events, event)] :=
    MediaClock.trace_append _ _ _ _
  rw [latest?, clockings, traced, List.filterMap_append, List.filter_append, List.getLast?_append,
    latest?, clockings]
  congr 1
  rw [List.filterMap_cons]
  cases clocking? (r.nextAll events, event) with
  | none => rfl
  | some c =>
    rw [List.filterMap_nil, List.filter_cons, Option.filter]
    split <;> rfl

theorem id_of_latest? {r : Replay} {events : List Event} {id : TrackId} {c : Clocking}
    (latest : r.latest? events id = some c) :
  c.track.id = id
  := by simpa using (List.mem_filter.mp (List.mem_of_getLast? latest)).2

theorem mem_clockings_of_latests {r : Replay} {events : List Event} {c : Clocking}
    (latest : c ∈ r.latests events) :
  c ∈ r.clockings events
  := (List.mem_filter.mp (List.mem_of_getLast? latest)).1

/-- A track with a clock value has a latest one. -/
theorem exists_latest? {r : Replay} {events : List Event} (heard : r.clockings events ≠ []) :
  ∃ id c, r.latest? events id = some c
  := by
  obtain ⟨c, mem⟩ := List.exists_mem_of_ne_nil _ heard
  have own : c ∈ (r.clockings events).filter (·.track.id = c.track.id) :=
    List.mem_filter.mpr ⟨mem, decide_eq_true rfl⟩
  exact ⟨c.track.id, _, List.getLast?_eq_some_getLast (List.ne_nil_of_mem own)⟩

/-! ### What events leave behind -/

/-- Dispatching a packet leaves the timeline alone. -/
theorem timeline_dispatch (track : TrackId) (cargo : Cargo)
    (step : Step Replay LiveStream.Notice (Except Error Stamps)) :
  (dispatch track cargo step).state.stream.timeline = step.state.stream.timeline
  := by
  obtain ⟨answer, r, notices⟩ := step
  cases answer with
  | error e => rfl
  | ok clock => apply congrArg LiveStream.timeline (r.stream.state_send _ _)

/-- A clock value takes the place of the last one of its track. -/
theorem kept_or (conversion : Conversion) (c : Clocking) (id : TrackId) (last? : Option Int) :
  (((some c).filter (·.track.id = id)).map (Clocking.kept conversion)).or last?
    = if c.track.id = id then some (c.kept conversion) else last?
  := by
  rw [Option.filter]
  by_cases own : c.track.id = id
  · rw [if_pos own, if_pos (decide_eq_true own)]
    rfl
  · rw [if_neg own, if_neg (mt of_decide_eq_true own)]
    rfl

/-- An event leaves the last clock values as they are, or sets the one of its track. -/
theorem last?_next (r : Replay) (event : Event) (id : TrackId) :
  (r.next event).stream.timeline.last? id
    = (((clocking? (r, event)).filter (·.track.id = id)).map
        (Clocking.kept r.stream.timeline.settings.conversion)).or (r.stream.timeline.last? id)
  := by
  cases event with
  | track other mediaType num den =>
    rw [next, apply]
    cases Timebase.ofFraction num den <;> rfl
  | start =>
    change (r.stream.start r.now).state.timeline.last? id = _
    rw [LiveStream.start]
    cases r.stream.lastPacket? <;> rfl
  | stop =>
    change r.stream.stop.state.timeline.last? id = _
    rw [LiveStream.stop]
    split <;> rfl
  | base other raw modulus cargo =>
    rw [next, apply, timeline_dispatch, clocking?]
    change (r.stream.rebase other raw modulus).state.timeline.last? id = _
    rw [LiveStream.rebase, LiveStream.state_onTrack]
    cases r.stream.tracks.find? other with
    | none => rfl
    | some track =>
      rw [Option.map_some, kept_or]
      apply r.stream.timeline.last?_rebase
  | delta other raw modulus cargo =>
    rw [next, apply, timeline_dispatch, clocking?]
    change (r.stream.advance other raw modulus).state.timeline.last? id = _
    rw [LiveStream.advance, LiveStream.state_onTrack]
    cases found : r.stream.tracks.find? other with
    | none => rfl
    | some track =>
      obtain rfl : track.id = other := KeyedList.key_of_find? found
      change (r.stream.timeline.advance track.id raw modulus).state.last? id = _
      rw [Timeline.state_advance, Option.map_some, kept_or]
      apply TrackMap.get?_set
  | sleep => rfl

/-- The last clock value of a track is what its latest one leaves behind. -/
theorem last?_nextAll (settings : Timeline.Settings) (events : List Event) (id : TrackId) :
  ((ofSettings settings).nextAll events).stream.timeline.last? id
    = ((ofSettings settings).latest? events id).map (Clocking.kept settings.conversion)
  := by
  induction events using List.reverseRecOn with
  | nil => rfl
  | append_singleton events event ih =>
    rw [nextAll_concat, last?_next, settings_nextAll, ih, latest?_concat, Option.map_or]

/-! ### Stops -/

/-- The replay after the lines of a script. -/
def played (settings : Timeline.Settings) (lines : List String) : Replay :=
  ((ofSettings settings).run 1 (lines.map some)).state

theorem played_eq (settings : Timeline.Settings) (lines : List String) :
  played settings lines = (ofSettings settings).nextAll (lines.filterMap event?)
  := state_run _ _ _

/-- A stop after some lines of a script. -/
theorem played_concat_stop {line : String} (stops : event? line = some .stop)
    (settings : Timeline.Settings) (lines : List String) :
  played settings (lines ++ [line]) = (played settings lines).next .stop
  := by
  rw [played_eq, played_eq, List.filterMap_append, ← nextAll_concat]
  congr 2
  rw [List.filterMap_cons, stops]
  rfl

/-- That the bases of all tracks of a stream are the earliest of some times. -/
def AnchoredAtEarliest (s : LiveStream) (times : Set Int) : Prop :=
  ∀ id, s.tracks.contains id → IsLeast times (s.timeline.base id)

/-- The last clock values of a replay are what the latest ones leave behind. -/
theorem last?_eq_some_iff (settings : Timeline.Settings) (events : List Event) (id : TrackId)
    (value : Int) :
  ((ofSettings settings).nextAll events).stream.timeline.last? id = some value
    ↔ ∃ c ∈ (ofSettings settings).latests events,
      c.track.id = id ∧ c.kept settings.conversion = value
  := by
  rw [last?_nextAll, Option.map_eq_some_iff]
  constructor
  · rintro ⟨c, latest, kept⟩
    obtain rfl := id_of_latest? latest
    exact ⟨c, latest, rfl, kept⟩
  · rintro ⟨c, latest, rfl, kept⟩
    exact ⟨c, latest, kept⟩

/-- A track with a clock value is a track of the stream. -/
theorem contains_of_latest? {settings : Timeline.Settings} {events : List Event} {id : TrackId}
    {c : Clocking} (latest : (ofSettings settings).latest? events id = some c) :
  ((ofSettings settings).nextAll events).stream.tracks.contains id
  := by
  obtain rfl := id_of_latest? latest
  exact contains_of_last? ((last?_eq_some_iff _ _ _ _).mpr ⟨c, latest, rfl, rfl⟩)

/-- The anchor of a replay is the smallest of what the latest clock values leave behind. -/
theorem anchor?_eq_some_iff (settings : Timeline.Settings) (events : List Event) (anchor : Int) :
  let s := ((ofSettings settings).nextAll events).stream
  s.timeline.anchor? s.tracks = some anchor
    ↔ IsLeast (Clocking.kept settings.conversion '' (ofSettings settings).latests events) anchor
  := by
  intro s
  rw [Timeline.anchor?_eq_some_iff]
  simp only [s, last?_eq_some_iff]
  constructor
  · rintro ⟨⟨id, -, c, latest, -, attained⟩, least⟩
    constructor
    · exact ⟨c, latest, attained⟩
    · rintro _ ⟨other, latest, rfl⟩
      exact least _ _ (contains_of_latest? latest) ⟨other, latest, rfl, rfl⟩
  · rintro ⟨⟨c, latest, attained⟩, least⟩
    constructor
    · exact ⟨_, contains_of_latest? latest, c, latest, rfl, attained⟩
    · rintro id _ - ⟨other, latest, -, rfl⟩
      exact least ⟨other, latest, rfl⟩

/-- A stop of a stream that is not stopped moves the bases of all tracks to the smallest of what
the latest clock values leave behind. -/
theorem base_stop {settings : Timeline.Settings} {events : List Event}
    (running : ((ofSettings settings).nextAll events).stream.phase ≠ .stopped)
    (heard : (ofSettings settings).clockings events ≠ []) :
  let after := (((ofSettings settings).nextAll events).next .stop).stream
  after.tracks = ((ofSettings settings).nextAll events).stream.tracks
    ∧ ∃ anchor,
      IsLeast (Clocking.kept settings.conversion '' (ofSettings settings).latests events) anchor
        ∧ ∀ id, after.tracks.contains id → after.timeline.base id = anchor
  := by
  let s := ((ofSettings settings).nextAll events).stream
  have tracks : (s.perform .stop).state.tracks = s.tracks := s.tracks_perform .stop
  use tracks
  cases anchored : s.timeline.anchor? s.tracks with
  | none =>
    -- A track with a clock value has left one behind, and it is a track of the stream.
    obtain ⟨id, c, latest⟩ := exists_latest? heard
    have silent := (Timeline.anchor?_eq_none_iff _ _).mp anchored id (contains_of_latest? latest)
    rw [last?_nextAll, latest] at silent
    cases silent
  | some anchor =>
    use anchor, (anchor?_eq_some_iff settings events anchor).mp anchored
    intro id known
    change (s.perform .stop).state.tracks.contains id at known
    rw [tracks] at known
    apply (LiveStream.base_perform_stop running id).trans
    rw [if_pos known, anchored, Option.getD_some]

/-- A stop that ends a session of a replay moves the bases of all tracks to the smallest of what
their latest clock values leave behind, which is a time for a rebased packet and ticks for a
running clock.  So the bases are the earliest of the times of these clock values exactly when
some time is at this anchor, and no running clock has a time before it. -/
theorem anchoredAtEarliest_iff {settings : Timeline.Settings} {lines : List String} {line : String}
    (stops : event? line = some .stop)
    (running : (played settings lines).stream.phase ≠ .stopped)
    (heard : (ofSettings settings).clockings (lines.filterMap event?) ≠ []) :
  let latests := (ofSettings settings).latests (lines.filterMap event?)
  let after := (played settings (lines ++ [line])).stream
  ∃ anchor,
    IsLeast (Clocking.kept settings.conversion '' latests) anchor
      ∧ (∀ id, after.tracks.contains id → after.timeline.base id = anchor)
      ∧ (AnchoredAtEarliest after (Clocking.micros settings.conversion '' latests)
        ↔ (∃ c ∈ latests, c.micros settings.conversion = anchor)
          ∧ ∀ c ∈ latests, c.integrated → anchor ≤ c.micros settings.conversion)
  := by
  intro latests after
  have stopped : played settings (lines ++ [line])
      = ((ofSettings settings).nextAll (lines.filterMap event?)).next .stop := by
    rw [played_concat_stop stops, played_eq]
  rw [played_eq] at running
  obtain ⟨tracks, anchor, least, bases⟩ := base_stop running heard
  rw [← stopped] at tracks bases
  use anchor, least, bases
  constructor
  · intro earliest
    obtain ⟨id, c, latest⟩ := exists_latest? heard
    have known : after.tracks.contains id := tracks ▸ contains_of_latest? latest
    have times := earliest id known
    rw [bases id known] at times
    exact ⟨times.1, fun c latest _ => times.2 ⟨c, latest, rfl⟩⟩
  · rintro ⟨attained, running⟩ id known
    rw [bases id known]
    constructor
    · exact attained
    · rintro _ ⟨c, latest, rfl⟩
      by_cases integrated : c.integrated
      · apply running c latest integrated
      · have kept : c.kept settings.conversion = c.micros settings.conversion :=
          if_neg integrated
        rw [← kept]
        exact least.2 ⟨c, latest, rfl⟩

/-- Video that is rebased for two seconds, and in between audio with a running clock, whose raw
values go from one to another. -/
def videoAndClock (ticksPerSecond : UInt32) (first last : Int) : List Event := [
  .track ⟨0⟩ .video 1 1000,
  .track ⟨1⟩ .audio 1 ticksPerSecond,
  .base ⟨0⟩ ⟨0, 0⟩ 9000 {},
  .delta ⟨1⟩ first 4294967295 {},
  .base ⟨0⟩ ⟨2000, 2000⟩ 9000 {},
  .delta ⟨1⟩ last 4294967295 {}]

/-- Conversions are exact. -/
def exactly : Timeline.Settings := { conversion := .exact }

/-- A clock of microseconds that runs for one and a half seconds. -/
def microsecondClock : List String := [
  "[\"track\",0,\"video\",1,1000]",
  "[\"track\",1,\"audio\",1,1000000]",
  "[\"base\",0,0,0,9000]",
  "[\"delta\",1,700,4294967295]",
  "[\"base\",0,2000,2000,9000]",
  "[\"delta\",1,1500700,4294967295]"]

theorem read_microsecondClock :
  microsecondClock.filterMap event? = videoAndClock 1000000 700 1500700
  := by
  decide +kernel

theorem read_stop :
  event? "[\"stop\"]" = some .stop
  := by
  decide +kernel

theorem anchoredAtEarliest_microsecondClock :
  let events := microsecondClock.filterMap event?
  let after := (played exactly (microsecondClock ++ ["[\"stop\"]"])).stream
  event? "[\"stop\"]" = some .stop
    ∧ (played exactly microsecondClock).stream.phase ≠ .stopped
    ∧ (ofSettings exactly).clockings events ≠ []
    ∧ (∀ id, after.tracks.contains id → after.timeline.base id = 1500000)
    ∧ AnchoredAtEarliest after (Clocking.micros .exact '' (ofSettings exactly).latests events)
  := by
  have running : (played exactly microsecondClock).stream.phase ≠ .stopped := by
    rw [played_eq, read_microsecondClock]
    decide +kernel
  have heard : (ofSettings exactly).clockings (microsecondClock.filterMap event?) ≠ [] := by
    rw [read_microsecondClock]
    decide +kernel
  refine ⟨read_stop, running, heard, ?_⟩
  obtain ⟨anchor, least, bases, iff⟩ := anchoredAtEarliest_iff read_stop running heard
  have known :
      (played exactly (microsecondClock ++ ["[\"stop\"]"])).stream.tracks.contains ⟨0⟩ := by
    rw [played_concat_stop read_stop, played_eq, read_microsecondClock]
    decide +kernel
  have base :
      (played exactly (microsecondClock ++ ["[\"stop\"]"])).stream.timeline.base ⟨0⟩ = 1500000 := by
    rw [played_concat_stop read_stop, played_eq, read_microsecondClock]
    decide +kernel
  obtain rfl : anchor = 1500000 := (bases ⟨0⟩ known).symm.trans base
  use bases
  apply iff.mpr
  rw [read_microsecondClock]
  constructor
  · use ⟨⟨⟨1⟩, .audio, ⟨1, 1000000, by decide, by decide⟩⟩, 1500000, true⟩
    constructor
    · change latest? _ _ _ = some _
      decide +kernel
    · decide
  · have late : ∀ c ∈ (ofSettings exactly).clockings (videoAndClock 1000000 700 1500700),
        (ofSettings exactly).latest? (videoAndClock 1000000 700 1500700) c.track.id = some c →
          c.integrated → 1500000 ≤ c.micros .exact := by
      decide +kernel
    intro c latest
    apply late c (mem_clockings_of_latests latest) latest

/-- A clock of audio samples that runs for two seconds. -/
def samplingClock : List String := [
  "[\"track\",0,\"video\",1,1000]",
  "[\"track\",1,\"audio\",1,48000]",
  "[\"base\",0,0,0,9000]",
  "[\"delta\",1,700,4294967295]",
  "[\"base\",0,2000,2000,9000]",
  "[\"delta\",1,96700,4294967295]"]

theorem read_samplingClock :
  samplingClock.filterMap event? = videoAndClock 48000 700 96700
  := by
  decide +kernel

/-- Both tracks have come to two seconds, but the ticks of the audio are taken for microseconds,
and the bases are moved to 96 milliseconds. -/
theorem not_anchoredAtEarliest_samplingClock :
  let events := samplingClock.filterMap event?
  let after := (played exactly (samplingClock ++ ["[\"stop\"]"])).stream
  event? "[\"stop\"]" = some .stop
    ∧ (played exactly samplingClock).stream.phase ≠ .stopped
    ∧ ((ofSettings exactly).latest? events ⟨0⟩).map (Clocking.micros .exact) = some 2000000
    ∧ ((ofSettings exactly).latest? events ⟨1⟩).map (Clocking.micros .exact) = some 2000000
    ∧ after.timeline.base ⟨0⟩ = 96000 ∧ after.timeline.base ⟨1⟩ = 96000
    ∧ ¬ AnchoredAtEarliest after (Clocking.micros .exact '' (ofSettings exactly).latests events)
  := by
  intro events after
  have read : events = videoAndClock 48000 700 96700 := read_samplingClock
  have reached : after
      = (((ofSettings exactly).nextAll (videoAndClock 48000 700 96700)).next .stop).stream := by
    rw [← read_samplingClock, ← played_eq, ← played_concat_stop read_stop]
  have base : after.timeline.base ⟨0⟩ = 96000 := by
    rw [reached]
    decide +kernel
  rw [played_eq, read_samplingClock, read]
  refine ⟨read_stop, by decide +kernel, by decide +kernel, by decide +kernel, base, ?_, ?_⟩
  · rw [reached]
    decide +kernel
  · intro earliest
    have known : after.tracks.contains ⟨0⟩ := by
      rw [reached]
      decide +kernel
    obtain ⟨⟨c, latest, time⟩, -⟩ := earliest ⟨0⟩ known
    rw [base] at time
    have other : ∀ c ∈ (ofSettings exactly).clockings (videoAndClock 48000 700 96700),
        c.micros .exact ≠ 96000 := by
      decide +kernel
    exact other c (mem_clockings_of_latests latest) time

end MediaClock.Replay
