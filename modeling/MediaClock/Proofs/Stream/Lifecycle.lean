import Mathlib.Data.List.DropRight
import MediaClock.Proofs.Stream.Epochs

/-!
# The life of a stream

The phase of a stream, and what its timeline remembers of the epoch under way, can be told from
the calls alone.  A stream is stopped when a stop was the last of its calls that move it to a
phase.  The start of its epoch is the first decode timestamp that was rebased since the last stop
that closed an epoch, and the last raw value of a track is the latest one whose increment was
taken since then.  Calls that fail leave none of this behind, and neither do stops that come to
a stopped stream.
-/

namespace MediaClock.LiveStream

variable {s : LiveStream} {call : Call}

/-- Whether a call succeeds on the stream that it is made on. -/
def succeeds (entry : LiveStream × Call) : Bool := (entry.1.perform entry.2).answer.isOk

/-! ### Runs that end with a call -/

theorem performAll_concat (s : LiveStream) (calls : List Call) (call : Call) :
  s.performAll (calls ++ [call]) = ((s.performAll calls).perform call).state
  := List.foldl_append

theorem trace_concat (s : LiveStream) (calls : List Call) (call : Call) :
  s.trace (calls ++ [call]) = s.trace calls ++ [(s.performAll calls, call)]
  := MediaClock.trace_append _ _ _ _

/-- The settings of a stream never change. -/
theorem settings_performAll (s : LiveStream) (calls : List Call) :
  (s.performAll calls).timeline.settings = s.timeline.settings
  := by
  induction calls using List.reverseRecOn with
  | nil => rfl
  | append_singleton calls call ih =>
    rw [performAll_concat, timeline_perform, ← ih]
    cases timelineCall? (s.performAll calls, call) with
    | none => rfl
    | some made => apply Timeline.settings_perform

/-! ### Phases -/

/-- Whether a call moves the stream that it is made on to a phase. -/
def movesPhase : LiveStream × Call → Bool
  | (_, .stop) | (_, .terminate) => true
  | (s, .setPhase next) => succeeds (s, .setPhase next)
  | _ => false

/-- A stream cannot be set to the stopped phase. -/
theorem perform_setPhase_stopped (s : LiveStream) :
  s.perform (.setPhase .stopped) = ⟨.error (.rejectedTransition s.phase), s, []⟩
  := by
  rw [perform, setPhase, if_pos rfl]
  rfl

/-- Of the calls that move a stream to a phase, stops are those that stop it. -/
theorem stopped_perform_iff (moves : movesPhase (s, call)) :
  (s.perform call).state.phase = .stopped ↔ call = .stop
  := by
  cases call with
  | stop =>
    change s.stop.state.phase = .stopped ↔ _
    rw [state_stop]
    split
    next stopped => simp only [stopped]
    · simp only
  | terminate =>
    change Phase.terminated = .stopped ↔ _
    simp only [reduceCtorEq]
  | setPhase next =>
    by_cases stopped : next = .stopped
    · rw [stopped, movesPhase, succeeds, perform_setPhase_stopped] at moves
      cases moves
    · change (s.setPhase next).state.phase = .stopped ↔ _
      rw [setPhase, if_neg stopped]
      simp only [stopped, reduceCtorEq]
  | _ => cases moves

/-- Other calls leave the phase as it is. -/
theorem phase_perform (stays : ¬ movesPhase (s, call)) :
  (s.perform call).state.phase = s.phase
  := by
  cases call with
  | start now =>
    change (s.start now).state.phase = s.phase
    rw [start]
    split <;> rfl
  | stop => exact absurd rfl stays
  | terminate => exact absurd rfl stays
  | setPhase next =>
    by_cases stopped : next = .stopped
    · rw [stopped, perform_setPhase_stopped]
    · refine absurd ?_ stays
      change ((s.setPhase next).answer.map _).isOk
      rw [setPhase, if_neg stopped]
      rfl
  | rebase id => apply congrArg phase (s.state_onTrack id _)
  | advance id => apply congrArg phase (s.state_onTrack id _)
  | increment id => apply congrArg phase (s.state_onTrack id _)
  | send packet now => apply congrArg phase (s.state_send packet now)
  | sendData => apply congrArg phase (s.state_sendData _ _ _ _ _)
  | _ => rfl

/-- A stream is stopped when a stop was the last of its calls that move it to a phase. -/
theorem stopped_performAll_iff (new : s.phase ≠ .stopped) (calls : List Call) :
  (s.performAll calls).phase = .stopped
    ↔ ((s.trace calls).filter movesPhase).getLast?.map Prod.snd = some .stop
  := by
  -- What comes last in a run decides, so the calls are taken from the end.
  induction calls using List.reverseRecOn with
  | nil =>
    constructor
    · exact fun stopped => absurd stopped new
    · nofun
  | append_singleton calls call ih =>
    rw [performAll_concat, trace_concat, List.filter_append]
    by_cases moves : movesPhase (s.performAll calls, call)
    · rw [stopped_perform_iff moves, List.filter_cons_of_pos moves, List.filter_nil,
        List.getLast?_concat, Option.map_some, Option.some_inj]
    · rw [phase_perform moves, ih, List.filter_cons_of_neg moves, List.filter_nil, List.append_nil]

/-! ### The epoch under way -/

/-- The calls since the last stop that closed an epoch, or since the beginning of the run. -/
def openEpoch (s : LiveStream) (calls : List Call) : List (LiveStream × Call) :=
  (s.trace calls).rtakeWhile fun entry => ¬ endsEpoch entry

/-- What is read off the calls of the open epoch that succeed. -/
def readInEpoch {α : Type} (s : LiveStream) (calls : List Call)
    (read : LiveStream × Call → Option α) : List α :=
  ((s.openEpoch calls).filter succeeds).filterMap read

/-- The decode timestamp of a call that rebases a packet, in microseconds. -/
def dtsMicros? (conversion : Conversion) (entry : LiveStream × Call) : Option Int :=
  (rebasing? entry).map fun r => r.track.timebase.toMicros conversion r.raw.dts

/-- The raw value of a call that takes the increment of one of a track. -/
def rawOf? (id : TrackId) : LiveStream × Call → Option Int
  | (_, .advance other raw _) | (_, .increment other raw _) =>
    if other = id then some raw else none
  | _ => none

section Reading

variable {α : Type} (read : LiveStream × Call → Option α) {calls : List Call}

theorem readInEpoch_concat_of_ends (ends : endsEpoch (s.performAll calls, call)) :
  s.readInEpoch (calls ++ [call]) read = []
  := by
  have empty : s.openEpoch (calls ++ [call]) = [] := by
    rw [openEpoch, trace_concat]
    apply List.rtakeWhile_concat_neg
    simp [ends]
  rw [readInEpoch, empty]
  rfl

theorem readInEpoch_concat_of_stays (stays : ¬ endsEpoch (s.performAll calls, call)) :
  s.readInEpoch (calls ++ [call]) read
    = s.readInEpoch calls read
      ++ (if succeeds (s.performAll calls, call) then read (s.performAll calls, call)
        else none).toList
  := by
  have extended : s.openEpoch (calls ++ [call])
      = s.openEpoch calls ++ [(s.performAll calls, call)] := by
    rw [openEpoch, trace_concat]
    apply List.rtakeWhile_concat_pos
    exact decide_eq_true stays
  rw [readInEpoch, extended, List.filter_append, List.filterMap_append]
  congr 1
  by_cases good : succeeds (s.performAll calls, call)
  · rw [List.filter_cons_of_pos good, if_pos good, List.filter_nil, List.filterMap_cons]
    cases read (s.performAll calls, call) <;> rfl
  · rw [List.filter_cons_of_neg good, if_neg good]
    rfl

end Reading

/-- A call that makes no call of the timeline leaves it as it is. -/
theorem timeline_perform_of_none (makes : timelineCall? (s, call) = none) :
  (s.perform call).state.timeline = s.timeline
  := by
  rw [timeline_perform, makes]
  rfl

/-- A stop that closes an epoch forgets its start and the last raw values. -/
theorem forgets_of_ends (ends : endsEpoch (s, call)) :
  (s.perform call).state.timeline.start? = none
    ∧ (s.perform call).state.timeline.sources = ∅
  := by
  cases call with
  | stop =>
    rw [timeline_perform, timelineCall?, if_neg (of_decide_eq_true ends)]
    exact ⟨rfl, rfl⟩
  | _ => cases ends

/-! ### The start of the epoch -/

/-- A call with a packet succeeds. -/
theorem succeeds_of_rebasing? {r : Rebasing} (packet : rebasing? (s, call) = some r) :
  succeeds (s, call)
  := by
  have answered := s.stamps?_perform call
  rw [packet] at answered
  rw [succeeds]
  cases answer : (s.perform call).answer with
  | error e =>
    rw [answer] at answered
    cases answered
  | ok => rfl

/-- Only packets capture the start of an epoch. -/
theorem start?_perform_of_silent (stays : ¬ endsEpoch (s, call))
    (silent : rebasing? (s, call) = none) :
  (s.perform call).state.timeline.start? = s.timeline.start?
  := by
  rw [timeline_perform]
  cases call with
  | start =>
    rw [timelineCall?]
    cases s.lastPacket? <;> rfl
  | stop =>
    rw [timelineCall?, if_pos (stopped_of_not_ends stays)]
    rfl
  | rebase id =>
    -- A packet of an unknown track does not come to the timeline.
    have unknown : s.tracks.find? id = none := Option.map_eq_none_iff.mp silent
    rw [timelineCall?, unknown]
    rfl
  | advance id raw modulus =>
    rw [timelineCall?]
    cases s.tracks.find? id with
    | none => rfl
    | some =>
      change (s.timeline.advance id raw modulus).state.start? = _
      rw [Timeline.state_advance]
  | increment id raw modulus =>
    rw [timelineCall?]
    cases s.tracks.find? id with
    | none => rfl
    | some =>
      change (s.timeline.increment id raw modulus).state.start? = _
      rw [Timeline.state_increment]
  | _ => rfl

/-- The first packet of an epoch captures its start. -/
theorem start?_perform (stays : ¬ endsEpoch (s, call)) :
  (s.perform call).state.timeline.start?
    = s.timeline.start?.or
      (if succeeds (s, call) then dtsMicros? s.timeline.settings.conversion (s, call) else none)
  := by
  cases packet : rebasing? (s, call) with
  | none =>
    rw [start?_perform_of_silent stays packet, dtsMicros?, packet, Option.map_none, ite_self,
      Option.or_none]
  | some r =>
    obtain ⟨before, -, state⟩ := perform_of_rebasing? packet
    rw [state, if_pos (succeeds_of_rebasing? packet), dtsMicros?, packet, Option.map_some, ← before]
    change some r.start = _
    rw [Rebasing.start, Timeline.startFrom]
    cases r.before.start? <;> rfl

/-- The start of the open epoch is the first decode timestamp that was rebased in it. -/
theorem start?_performAll (new : s.timeline.start? = none) (calls : List Call) :
  (s.performAll calls).timeline.start?
    = (s.readInEpoch calls (dtsMicros? s.timeline.settings.conversion)).head?
  := by
  induction calls using List.reverseRecOn with
  | nil => apply new
  | append_singleton calls call ih =>
    rw [performAll_concat]
    by_cases ends : endsEpoch (s.performAll calls, call)
    · rw [(forgets_of_ends ends).1, readInEpoch_concat_of_ends _ ends]
      rfl
    · rw [start?_perform ends, ih, settings_performAll, readInEpoch_concat_of_stays _ ends,
        List.head?_append, Option.head?_toList]

/-! ### The last raw values -/

/-- An operation on a track succeeds if the stream has the track. -/
theorem isOk_onTrack {α : Type} (s : LiveStream) (id : TrackId)
    (operation : Timeline → Track → Step Timeline Timeline.Notice α) (f : α → Answer) :
  ((s.onTrack id operation).answer.map f).isOk = s.tracks.contains id
  := by
  rw [answer_onTrack, LiveStream.track, KeyedList.contains]
  cases s.tracks.find? id <;> rfl

/-- Setting the last raw value of one track leaves those of the others. -/
theorem get?_set_eq_or (sources : TrackMap Int) (other id : TrackId) (raw : Int) :
  (sources.set other raw).get? id = (if other = id then some raw else none).or (sources.get? id)
  := by
  rw [TrackMap.get?_set]
  split <;> rfl

/-- A call that takes no increment of a track leaves its last raw value as it is. -/
theorem source_perform_of_unread {id : TrackId} (unread : rawOf? id (s, call) = none)
    (same : (s.perform call).state.timeline.sources = s.timeline.sources) :
  (s.perform call).state.timeline.sources.get? id
    = (if succeeds (s, call) then rawOf? id (s, call) else none).or (s.timeline.sources.get? id)
  := by
  rw [unread, ite_self, same]
  rfl

/-- Taking the increment of a raw value of a known track makes it the last one. -/
theorem source_perform (stays : ¬ endsEpoch (s, call)) (id : TrackId) :
  (s.perform call).state.timeline.sources.get? id
    = (if succeeds (s, call) then rawOf? id (s, call) else none).or (s.timeline.sources.get? id)
  := by
  cases call with
  | advance other raw modulus =>
    have known : succeeds (s, .advance other raw modulus) = s.tracks.contains other :=
      s.isOk_onTrack other _ _
    rw [timeline_perform, timelineCall?, known, KeyedList.contains]
    cases s.tracks.find? other with
    | none => rfl
    | some =>
      change (s.timeline.advance other raw modulus).state.sources.get? id = _
      rw [Timeline.state_advance]
      apply get?_set_eq_or
  | increment other raw modulus =>
    have known : succeeds (s, .increment other raw modulus) = s.tracks.contains other :=
      s.isOk_onTrack other _ _
    rw [timeline_perform, timelineCall?, known, KeyedList.contains]
    cases s.tracks.find? other with
    | none => rfl
    | some =>
      change (s.timeline.increment other raw modulus).state.sources.get? id = _
      rw [Timeline.state_increment]
      apply get?_set_eq_or
  | start =>
    apply source_perform_of_unread rfl
    rw [timeline_perform, timelineCall?]
    cases s.lastPacket? <;> rfl
  | stop =>
    apply source_perform_of_unread rfl
    rw [timeline_perform, timelineCall?, if_pos (stopped_of_not_ends stays)]
    rfl
  | rebase other =>
    apply source_perform_of_unread rfl
    rw [timeline_perform, timelineCall?]
    cases s.tracks.find? other <;> rfl
  | _ =>
    apply source_perform_of_unread rfl
    exact congrArg Timeline.sources (timeline_perform_of_none rfl)

/-- The last raw value of a track is the latest one whose increment was taken in the open
epoch. -/
theorem source_performAll (new : s.timeline.sources = ∅) (calls : List Call) (id : TrackId) :
  (s.performAll calls).timeline.sources.get? id
    = (s.readInEpoch calls (rawOf? id)).getLast?
  := by
  induction calls using List.reverseRecOn with
  | nil =>
    change s.timeline.sources.get? id = none
    rw [new]
    rfl
  | append_singleton calls call ih =>
    rw [performAll_concat]
    by_cases ends : endsEpoch (s.performAll calls, call)
    · rw [(forgets_of_ends ends).2, readInEpoch_concat_of_ends _ ends]
      rfl
    · rw [source_perform ends, ih, readInEpoch_concat_of_stays _ ends, List.getLast?_append]
      congr 1
      cases (if succeeds (s.performAll calls, call) then rawOf? id (s.performAll calls, call)
        else none) <;> rfl

/-- The phase of a stream and what it remembers of its epoch, from its calls.  It is stopped when
a stop was the last call that moved it to a phase, and in no other way.  The start of its epoch
is the first decode timestamp that was rebased with success since the last stop that closed one,
and a track has a last raw value when an increment of it was taken since then, which is the
latest. -/
theorem life_performAll (descriptor : Descriptor) (settings : Timeline.Settings)
    (calls : List Call) :
  let s := ofDescriptor descriptor settings
  let after := s.performAll calls
  (after.phase = .stopped
      ↔ ((s.trace calls).filter movesPhase).getLast?.map Prod.snd = some .stop)
    ∧ after.perform (.setPhase .stopped) = ⟨.error (.rejectedTransition after.phase), after, []⟩
    ∧ after.timeline.start? = (s.readInEpoch calls (dtsMicros? settings.conversion)).head?
    ∧ ∀ id, after.timeline.sources.get? id = (s.readInEpoch calls (rawOf? id)).getLast?
  := by
  intro s after
  constructor
  · apply stopped_performAll_iff
    nofun
  constructor
  · apply perform_setPhase_stopped
  constructor
  · apply start?_performAll rfl
  · apply source_performAll rfl

end MediaClock.LiveStream
