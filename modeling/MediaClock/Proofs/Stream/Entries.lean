import MediaClock.Proofs.Stream.Bases
import MediaClock.Proofs.Timeline.Entries

/-!
# Entries of a stream

A call of a stream that does not know its track fails before it comes to the timeline, and an
outage or the end of an epoch concerns the tracks that the stream has.  So the timeline of a
stream has entries of its tracks only.  A track that displaces another one keeps the entries of
its identifier, and no track is lost.
-/

namespace MediaClock.LiveStream

variable {s : LiveStream} {call : Call} {limit : ℕ}

/-- A stream makes calls of its timeline for its own tracks only. -/
theorem isWithin_of_timelineCall? {made : Timeline.Call}
    (makes : timelineCall? (s, call) = some made) :
  made.IsWithin s.tracks
  := by
  cases call with
  | start =>
    obtain ⟨_, -, rfl⟩ := Option.map_eq_some_iff.mp makes
    apply List.Subset.refl
  | stop =>
    rw [timelineCall?] at makes
    split at makes
    · cases makes
    · cases makes
      apply List.Subset.refl
  | rebase id =>
    obtain ⟨track, known, rfl⟩ := Option.map_eq_some_iff.mp makes
    obtain rfl : track.id = id := KeyedList.key_of_find? known
    apply KeyedList.mem_keys_of_find? known
  | advance =>
    obtain ⟨_, known, rfl⟩ := Option.map_eq_some_iff.mp makes
    apply KeyedList.mem_keys_of_find? known
  | increment =>
    obtain ⟨_, known, rfl⟩ := Option.map_eq_some_iff.mp makes
    apply KeyedList.mem_keys_of_find? known
  | _ => cases makes

/-- The tracks before a call are among those after it. -/
theorem keys_subset_perform (s : LiveStream) (call : Call) :
  s.tracks.keys ⊆ (s.perform call).state.tracks.keys
  := by
  intro id known
  apply KeyedList.mem_keys.mpr
  apply contains_perform (KeyedList.mem_keys.mp known)

theorem isWithin_perform (within : s.timeline.IsWithin s.tracks) (call : Call) :
  (s.perform call).state.timeline.IsWithin (s.perform call).state.tracks
  := by
  apply Timeline.IsWithin.mono _ (s.keys_subset_perform call)
  rw [timeline_perform]
  cases makes : timelineCall? (s, call) with
  | none => apply within
  | some made => apply within.perform (isWithin_of_timelineCall? makes)

theorem isWithin_performAll (within : s.timeline.IsWithin s.tracks) (calls : List Call) :
  (s.performAll calls).timeline.IsWithin (s.performAll calls).tracks
  := by
  induction calls generalizing s with
  | nil => apply within
  | cons call calls ih => apply ih (isWithin_perform within call)

theorem isConsistent_perform (consistent : s.timeline.IsConsistent limit) (call : Call) :
  (s.perform call).state.timeline.IsConsistent (limit + 1)
  := by
  rw [timeline_perform]
  cases timelineCall? (s, call) with
  | none => apply consistent.mono
  | some made => apply consistent.perform made

theorem isConsistent_performAll (consistent : s.timeline.IsConsistent limit)
    (calls : List Call) :
  (s.performAll calls).timeline.IsConsistent (limit + calls.length)
  := by
  induction calls generalizing s limit with
  | nil => apply consistent
  | cons call calls ih =>
    rw [List.length_cons, Nat.add_comm calls.length, ← Nat.add_assoc]
    apply ih (isConsistent_perform consistent call)

/-- Whatever is called on a new stream, its timeline has entries of its tracks only, they fit
together, and no more turns are counted than there were calls. -/
theorem entries_performAll (descriptor : Descriptor) (settings : Timeline.Settings)
    (calls : List Call) :
  let s := (ofDescriptor descriptor settings).performAll calls
  s.timeline.IsWithin s.tracks ∧ s.timeline.IsConsistent calls.length
  := by
  constructor
  · apply isWithin_performAll
    apply Timeline.isWithin_new
  · rw [← Nat.zero_add calls.length]
    apply isConsistent_performAll
    apply Timeline.isConsistent_new

end MediaClock.LiveStream
