import MediaClock.Proofs.Rounding
import MediaClock.Proofs.Timeline.History

/-!
# Fractions written differently

The fraction of a timebase is kept as it is written, but only its value matters to an exact
conversion, also where the rounding breaks a tie and where the result saturates.  So let two runs
of a timeline differ only in how the timebases of their tracks are written.  Then they go through
the same states and answer the same, and they notice the same but for the tracks that the notices
name.
-/

namespace MediaClock

/-! ### Timebases and tracks -/

/-- That two timebases are fractions with one value. -/
def Timebase.Agrees (a b : Timebase) : Prop := a.numInt * b.denInt = b.numInt * a.denInt

instance (a b : Timebase) : Decidable (a.Agrees b) := inferInstanceAs (Decidable (_ = _))

/-- That two tracks differ at most in how their timebases are written. -/
structure Track.Agrees (track other : Track) : Prop where
  id : track.id = other.id
  mediaType : track.mediaType = other.mediaType
  timebase : track.timebase.Agrees other.timebase

/-- That the tracks of two sets differ at most in how their timebases are written. -/
def TrackSet.Agrees (tracks others : TrackSet) : Prop :=
  List.Forall₂ Track.Agrees tracks.toList others.toList

namespace Timebase

variable {a b : Timebase}

theorem Agrees.toMicros (same : a.Agrees b) (ticks : Int) :
  a.toMicros .exact ticks = b.toMicros .exact ticks
  := by
  have cross : ticks * a.numInt * microsPerSecond * b.denInt
      = ticks * b.numInt * microsPerSecond * a.denInt :=
    calc ticks * a.numInt * microsPerSecond * b.denInt
      _ = ticks * microsPerSecond * (a.numInt * b.denInt) := by ring
      _ = ticks * microsPerSecond * (b.numInt * a.denInt) := by rw [same]
      _ = ticks * b.numInt * microsPerSecond * a.denInt := by ring
  rw [Timebase.toMicros, Timebase.toMicros, roundDiv_eq_of_cross a.denInt_pos b.denInt_pos cross]

theorem Agrees.toTicks (same : a.Agrees b) (micros : Int) :
  a.toTicks .exact micros = b.toTicks .exact micros
  := by
  have cross : micros * a.denInt * (b.numInt * microsPerSecond)
      = micros * b.denInt * (a.numInt * microsPerSecond) :=
    calc micros * a.denInt * (b.numInt * microsPerSecond)
      _ = micros * microsPerSecond * (b.numInt * a.denInt) := by ring
      _ = micros * microsPerSecond * (a.numInt * b.denInt) := by rw [same]
      _ = micros * b.denInt * (a.numInt * microsPerSecond) := by ring
  rw [Timebase.toTicks, Timebase.toTicks,
    roundDiv_eq_of_cross a.microsPerTick_pos b.microsPerTick_pos cross]

end Timebase

namespace TrackSet

variable {tracks others : TrackSet}

theorem Agrees.keys (same : tracks.Agrees others) :
  KeyedList.keys tracks = KeyedList.keys others
  := by
  rw [← List.forall₂_eq_eq_eq, KeyedList.keys, KeyedList.keys, List.forall₂_map_left_iff,
    List.forall₂_map_right_iff]
  apply List.Forall₂.imp _ same
  intro track other same
  apply same.id

theorem Agrees.contains (same : tracks.Agrees others) :
  KeyedList.contains tracks = KeyedList.contains others
  := by
  funext id
  rw [Bool.eq_iff_iff, ← KeyedList.mem_keys, ← KeyedList.mem_keys, same.keys]

end TrackSet

namespace Timeline

/-- That two calls differ at most in how the timebases of tracks are written. -/
inductive Call.Agrees : Call → Call → Prop
  | rebase {track other : Track} (same : track.Agrees other) (raw : Stamps) (modulus : Int) :
    Agrees (.rebase track raw modulus) (.rebase other raw modulus)
  | advance (id : TrackId) (raw modulus : Int) :
    Agrees (.advance id raw modulus) (.advance id raw modulus)
  | increment (id : TrackId) (raw modulus : Int) :
    Agrees (.increment id raw modulus) (.increment id raw modulus)
  | bridge {tracks others : TrackSet} (same : tracks.Agrees others) (gap : Int) :
    Agrees (.bridge tracks gap) (.bridge others gap)
  | close {tracks others : TrackSet} (same : tracks.Agrees others) :
    Agrees (.close tracks) (.close others)

/-- That two notices differ at most in how the timebases of tracks are written. -/
inductive Notice.Agrees : Notice → Notice → Prop
  | refl (notice : Notice) : Agrees notice notice
  | epochStarted {track other : Track} (same : track.Agrees other) (dts start : Int) :
    Agrees (.epochStarted track dts start) (.epochStarted other dts start)

/-- That two steps have one outcome, in which tracks that agree have one base as well. -/
structure SameOutcome (step other : Step Timeline Notice Answer) : Prop where
  answer : step.answer = other.answer
  state : step.state = other.state
  notices : List.Forall₂ Notice.Agrees step.notices other.notices
  baseTicks : ∀ {track written : Track}, track.Agrees written →
    step.state.baseTicks track = other.state.baseTicks written

variable {t : Timeline} {track other : Track}

theorem agrees_refl (notices : List Notice) :
  List.Forall₂ Notice.Agrees notices notices
  := List.forall₂_same.mpr fun notice _ => .refl notice

/-! ### Calls -/

theorem baseTicks_of_agrees (exact : t.settings.conversion = .exact) (same : track.Agrees other) :
  t.baseTicks track = t.baseTicks other
  := by rw [baseTicks, baseTicks, exact, same.id, same.timebase.toTicks]

theorem startFrom_of_agrees (exact : t.settings.conversion = .exact) (same : track.Agrees other)
    (dts : Int) :
  t.startFrom track dts = t.startFrom other dts
  := by rw [startFrom, startFrom, exact, same.timebase.toMicros]

theorem shift_of_agrees (exact : t.settings.conversion = .exact) (same : track.Agrees other)
    (start raw : Int) :
  t.shift track start raw = t.shift other start raw
  := by rw [shift, shift, baseTicks_of_agrees exact same, exact, same.timebase.toTicks]

/-- Rebasing depends on the value of the timebase only, but for the track in the notice. -/
theorem rebase_of_agrees (exact : t.settings.conversion = .exact) (same : track.Agrees other)
    (raw : Stamps) (modulus : Int) :
  (t.rebase track raw modulus).answer = (t.rebase other raw modulus).answer
    ∧ (t.rebase track raw modulus).state = (t.rebase other raw modulus).state
    ∧ List.Forall₂ Notice.Agrees (t.rebase track raw modulus).notices
      (t.rebase other raw modulus).notices
  := by
  simp only [rebase, startFrom_of_agrees exact same, shift_of_agrees exact same, exact, same.id,
    same.timebase.toMicros, true_and]
  apply List.rel_append (List.rel_append _ (agrees_refl _)) (agrees_refl _)
  split
  · exact .cons (.epochStarted same _ _) .nil
  · exact .nil

/-- Calls that agree have one outcome. -/
theorem perform_of_agrees (exact : t.settings.conversion = .exact) {call other : Call}
    (same : call.Agrees other) :
  (t.perform call).answer = (t.perform other).answer
    ∧ (t.perform call).state = (t.perform other).state
    ∧ List.Forall₂ Notice.Agrees (t.perform call).notices (t.perform other).notices
  := by
  cases same with
  | rebase same raw modulus =>
    obtain ⟨answer, state, notices⟩ := rebase_of_agrees exact same raw modulus
    exact ⟨congrArg Answer.stamps answer, state, notices⟩
  | advance => exact ⟨rfl, rfl, agrees_refl _⟩
  | increment => exact ⟨rfl, rfl, agrees_refl _⟩
  | bridge same gap =>
    rw [perform, perform, bridge, bridge, same.keys]
    exact ⟨rfl, rfl, .nil⟩
  | close same =>
    rw [perform, perform, close, close, anchor?, anchor?, same.contains, same.keys]
    exact ⟨rfl, rfl, agrees_refl _⟩

/-! ### Runs -/

/-- Two runs of a timeline that converts exactly have one outcome, call by call, if their calls
differ at most in how the timebases of tracks are written. -/
theorem runs_agree (t : Timeline) (exact : t.settings.conversion = .exact)
    {calls others : List Call} (same : List.Forall₂ Call.Agrees calls others) :
  List.Forall₂ SameOutcome (t.run calls) (t.run others)
  := by
  induction same generalizing t with
  | nil => exact .nil
  | @cons call other calls others first rest ih =>
    obtain ⟨answer, state, notices⟩ := perform_of_agrees exact first
    have exact' : (t.perform call).state.settings.conversion = .exact := by
      rw [settings_perform, exact]
    constructor
    · refine ⟨answer, state, notices, ?_⟩
      intro track written same
      rw [← state]
      apply baseTicks_of_agrees exact' same
    · rw [← state]
      apply ih _ exact'

/-- The calls of two epochs with a video track of a timebase.  The first outage comes to a tie in
the 90 kHz clock, the first packet saturates the start of the epoch, and the second outage
saturates the base. -/
def videoSession (timebase : Timebase) : List Call :=
  let video : Track := ⟨⟨0⟩, .video, timebase⟩
  [.bridge (KeyedList.ofList [video]) 50,
    .rebase video ⟨9223372036854775807, 9223372036854775806⟩ 8589934591,
    .close (KeyedList.ofList [video]),
    .bridge (KeyedList.ofList [video]) 50,
    .rebase video ⟨3000, 0⟩ 8589934591,
    .advance ⟨1⟩ 700 8589934591,
    .increment ⟨1⟩ 800 8589934591]

theorem videoSession_agrees {a b : Timebase} (same : a.Agrees b) :
  List.Forall₂ Call.Agrees (videoSession a) (videoSession b)
  := by
  have video : Track.Agrees ⟨⟨0⟩, .video, a⟩ ⟨⟨0⟩, .video, b⟩ := ⟨rfl, rfl, same⟩
  have tracks : TrackSet.Agrees (KeyedList.ofList [⟨⟨0⟩, .video, a⟩])
      (KeyedList.ofList [⟨⟨0⟩, .video, b⟩]) := .cons video .nil
  exact .cons (.bridge tracks _) <| .cons (.rebase video _ _) <| .cons (.close tracks) <|
    .cons (.bridge tracks _) <| .cons (.rebase video _ _) <| .cons (.advance _ _ _) <|
    .cons (.increment _ _ _) .nil

/-- The session has one outcome in the 90 kHz clock, reduced or not. -/
theorem runs_agree_expandedClock :
  let t : Timeline := {}
  let expanded : Timebase := { num := 2, den := 180000 }
  t.settings.conversion = .exact
    ∧ List.Forall₂ Call.Agrees (videoSession .mpegTs) (videoSession expanded)
    ∧ List.Forall₂ SameOutcome (t.run (videoSession .mpegTs)) (t.run (videoSession expanded))
  := by
  intro t expanded
  have same := videoSession_agrees (a := .mpegTs) (b := expanded) (by decide)
  exact ⟨rfl, same, runs_agree t rfl same⟩

end Timeline

end MediaClock
