import MediaClock.Proofs.Stream.Operations
import MediaClock.Proofs.Timeline.History
import MediaClock.Stream.Call

/-!
# What the calls of a stream do to its bases

A call of a stream makes at most one call of its timeline.  So what holds of every run of a
timeline holds of the timeline of a stream.  Only a start and a stop make calls that move bases,
and only the addition of a track changes the tracks.
-/

namespace MediaClock.LiveStream

/-- The stream after a run. -/
def performAll (s : LiveStream) (calls : List Call) : LiveStream :=
  calls.foldl (fun s call => (s.perform call).state) s

/-- The call of its timeline that a call of a stream makes, if it makes one. -/
def timelineCall? : LiveStream × Call → Option Timeline.Call
  | (s, .start now) => s.lastPacket?.map fun last => .bridge s.tracks (outageMicros last now)
  | (s, .stop) => if s.phase = .stopped then none else some (.close s.tracks)
  | (s, .rebase id raw modulus) => (s.tracks.find? id).map (.rebase · raw modulus)
  | (s, .advance id raw modulus) => (s.tracks.find? id).map fun _ => .advance id raw modulus
  | (s, .increment id raw modulus) => (s.tracks.find? id).map fun _ => .increment id raw modulus
  | _ => none

variable {s : LiveStream} {call : Call}

/-- The timeline of a stream is left by a call as the call that it makes leaves it. -/
theorem timeline_perform (s : LiveStream) (call : Call) :
  (s.perform call).state.timeline
    = (timelineCall? (s, call)).elim s.timeline fun call => (s.timeline.perform call).state
  := by
  cases call with
  | start now =>
    change (s.start now).state.timeline = _
    rw [start, timelineCall?]
    cases s.lastPacket? <;> rfl
  | stop =>
    change s.stop.state.timeline = _
    rw [stop, timelineCall?]
    split <;> rfl
  | rebase id raw modulus =>
    apply (congrArg timeline (s.state_onTrack id _)).trans
    rw [timelineCall?]
    cases s.tracks.find? id <;> rfl
  | advance id raw modulus =>
    apply (congrArg timeline (s.state_onTrack id _)).trans
    rw [timelineCall?]
    cases s.tracks.find? id <;> rfl
  | increment id raw modulus =>
    apply (congrArg timeline (s.state_onTrack id _)).trans
    rw [timelineCall?]
    cases s.tracks.find? id <;> rfl
  | setPhase next =>
    change (s.setPhase next).state.timeline = _
    rw [setPhase]
    split <;> rfl
  | send packet now => apply congrArg timeline (s.state_send packet now)
  | sendData => apply congrArg timeline (s.state_sendData _ _ _ _ _)
  | _ => rfl

/-- Whether a call is neither a start nor a stop. -/
def Call.keepsBases : Call → Bool
  | .start .. | .stop => false
  | _ => true

/-- A call that is neither a start nor a stop moves no base. -/
theorem base_perform (keeps : call.keepsBases) (id : TrackId) :
  (s.perform call).state.timeline.base id = s.timeline.base id
  := by
  rw [timeline_perform]
  cases made : timelineCall? (s, call) with
  | none => rfl
  | some timelineCall =>
    apply Timeline.base_perform
    cases call with
    | start => cases keeps
    | stop => cases keeps
    | rebase =>
      obtain ⟨_, -, rfl⟩ := Option.map_eq_some_iff.mp made
      rfl
    | advance =>
      obtain ⟨_, -, rfl⟩ := Option.map_eq_some_iff.mp made
      rfl
    | increment =>
      obtain ⟨_, -, rfl⟩ := Option.map_eq_some_iff.mp made
      rfl
    | _ => cases made

/-- A start after a packet moves the bases of the tracks on by the outage. -/
theorem base_perform_start {last : Nat} (heard : s.lastPacket? = some last) (now : Nat)
    (id : TrackId) :
  (s.perform (.start now)).state.timeline.base id
    = if s.tracks.contains id then
        Saturating.add (s.timeline.base id) (outageMicros last now)
      else s.timeline.base id
  := by
  change (s.start now).state.timeline.base id = _
  rw [state_start_of_some heard, Timeline.base_bridge]

/-- A stop that closes an epoch moves the bases of the tracks to the anchor, if there is one. -/
theorem base_perform_stop (running : s.phase ≠ .stopped) (id : TrackId) :
  (s.perform .stop).state.timeline.base id
    = if s.tracks.contains id then
        (s.timeline.anchor? s.tracks).getD (s.timeline.base id)
      else s.timeline.base id
  := by
  change s.stop.state.timeline.base id = _
  rw [state_stop, if_neg running, Timeline.base_close]

/-- No call moves the base of a track that the stream does not have. -/
theorem base_perform_of_unknown {id : TrackId} (unknown : ¬ s.tracks.contains id) (call : Call) :
  (s.perform call).state.timeline.base id = s.timeline.base id
  := by
  cases call with
  | start now =>
    cases heard : s.lastPacket? with
    | none =>
      change (s.start now).state.timeline.base id = _
      rw [state_start_of_none heard]
    | some last => rw [base_perform_start heard, if_neg unknown]
  | stop =>
    by_cases stopped : s.phase = .stopped
    · change s.stop.state.timeline.base id = _
      rw [state_stop, if_pos stopped]
    · rw [base_perform_stop stopped, if_neg unknown]
  | _ => exact base_perform rfl id

/-! ### Tracks -/

/-- The descriptor after a call is that before it, unless the call says otherwise. -/
theorem descriptor_perform (s : LiveStream) (call : Call) :
  (s.perform call).state.descriptor
    = match call with
      | .addTrack track => { s.descriptor with tracks := (TrackSet.add s.tracks track).2 }
      | .setRequestedUrl url => { s.descriptor with requestedUrl := url }
      | .setFinalUrl url => { s.descriptor with finalUrl := url }
      | _ => s.descriptor
  := by
  cases call with
  | start now =>
    change (s.start now).state.descriptor = s.descriptor
    rw [start]
    split <;> rfl
  | stop =>
    change s.stop.state.descriptor = s.descriptor
    rw [stop]
    split <;> rfl
  | rebase id => apply congrArg descriptor (s.state_onTrack id _)
  | advance id => apply congrArg descriptor (s.state_onTrack id _)
  | increment id => apply congrArg descriptor (s.state_onTrack id _)
  | setPhase next =>
    change (s.setPhase next).state.descriptor = s.descriptor
    rw [setPhase]
    split <;> rfl
  | send packet now => apply congrArg descriptor (s.state_send packet now)
  | sendData => apply congrArg descriptor (s.state_sendData _ _ _ _ _)
  | _ => rfl

/-- The tracks after a call are those before it, with one more if the call adds one. -/
theorem tracks_perform (s : LiveStream) (call : Call) :
  (s.perform call).state.tracks
    = match call with
      | .addTrack track => (TrackSet.add s.tracks track).2
      | _ => s.tracks
  := by
  apply (congrArg Descriptor.tracks (s.descriptor_perform call)).trans
  cases call <;> rfl

/-- A track that is added joins the others. -/
theorem contains_perform_addTrack (s : LiveStream) (track : Track) (id : TrackId) :
  (s.perform (.addTrack track)).state.tracks.contains id ↔ track.id = id ∨ s.tracks.contains id
  := KeyedList.contains_insert _ _ _

/-- Tracks are not lost. -/
theorem contains_perform {id : TrackId} (known : s.tracks.contains id) (call : Call) :
  (s.perform call).state.tracks.contains id
  := by
  cases call with
  | addTrack track => exact (s.contains_perform_addTrack track id).mpr (.inr known)
  | _ =>
    rw [tracks_perform]
    exact known

/-! ### Invariants -/

/-- What holds of the bases of every stream: a track that it does not have is at zero, and all
values are timestamps. -/
structure IsSound (s : LiveStream) : Prop where
  unknown : ∀ id, ¬ s.tracks.contains id → s.timeline.base id = 0
  range : s.timeline.InRange

theorem isSound_ofDescriptor (descriptor : Descriptor) (settings : Timeline.Settings) :
  IsSound (ofDescriptor descriptor settings)
  where
  unknown _ _ := rfl
  range := Timeline.inRange_new settings

theorem IsSound.perform (sound : IsSound s) (call : Call) :
  IsSound (s.perform call).state
  := by
  constructor
  · intro id unknown
    have before : ¬ s.tracks.contains id := fun known => unknown (contains_perform known call)
    apply (base_perform_of_unknown before call).trans (sound.unknown id before)
  · rw [timeline_perform]
    cases timelineCall? (s, call) with
    | none => apply sound.range
    | some call => apply sound.range.perform call

/-- The calls by which a new stream comes to an application, a data track and a packet. -/
def firstPacket : List Call := [
  .attach ⟨"app", "Application", fun _ => true⟩,
  .addTrack ⟨⟨0⟩, .data, .rtmp⟩,
  .sendData 0 .unknown .relay {} 0]

end MediaClock.LiveStream
