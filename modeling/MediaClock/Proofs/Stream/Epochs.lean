import MediaClock.Proofs.Stream.Bases

/-!
# Epochs of a stream

A stop that comes while a stream is not stopped closes an epoch of the stream.  The packets
of a run are listed epoch by epoch: the calls of the run, each with the stream that it is
made on, are split at these stops, and every call with a packet of a known track gives a
`Rebasing` of the timeline of the stream.
-/

namespace MediaClock.LiveStream

/-- The clock values that a call answers, if it answers any. -/
def stamps? : Except StreamError Answer → Option Stamps
  | .ok (.stamps s) => some s
  | _ => none

/-- The clock values emitted in a run, in order. -/
def emissions (s : LiveStream) (calls : List Call) : List Stamps :=
  (s.run calls).filterMap fun step => stamps? step.answer

/-- The calls of a run, each with the stream that it is made on. -/
def trace (s : LiveStream) (calls : List Call) : List (LiveStream × Call) :=
  MediaClock.trace (fun s call => (s.perform call).state) s calls

/-- Whether a call closes an epoch. -/
def endsEpoch : LiveStream × Call → Bool
  | (s, .stop) => s.phase ≠ .stopped
  | _ => false

/-- The packet of a call that rebases one of a known track. -/
def rebasing? : LiveStream × Call → Option Rebasing
  | (s, .rebase id raw modulus) =>
    (s.tracks.find? id).map fun track => ⟨s.timeline, track, raw, modulus⟩
  | _ => none

/-- The packets of a run, epoch by epoch.  The last epoch is not closed. -/
def epochs (s : LiveStream) (calls : List Call) : List (List Rebasing) :=
  ((s.trace calls).splitOnP endsEpoch).map (·.filterMap rebasing?)

/-! ### Calls with packets -/

/-- Rebasing a packet of a known track changes the timeline of a stream and nothing else. -/
theorem perform_of_rebasing? {s : LiveStream} {call : Call} {r : Rebasing}
    (packet : rebasing? (s, call) = some r) :
  r.before = s.timeline ∧ s.tracks.find? r.track.id = some r.track
    ∧ (s.perform call).state = { s with timeline := r.after }
  := by
  cases call with
  | rebase id raw modulus =>
    obtain ⟨track, known, rfl⟩ := Option.map_eq_some_iff.mp packet
    obtain rfl : track.id = id := KeyedList.key_of_find? known
    constructor
    · rfl
    constructor
    · apply known
    · change (s.rebase track.id raw modulus).state = _
      rw [rebase, state_onTrack_of_find? known]
      rfl
  | _ => cases packet

theorem stamps?_map_eq_none {α : Type} {f : α → Answer}
    (silent : ∀ a, stamps? (.ok (f a)) = none) (answer : Except StreamError α) :
  stamps? (answer.map f) = none
  := by
  cases answer with
  | error e => rfl
  | ok a => apply silent

/-- A call answers clock values exactly when it rebases a packet, which emits them. -/
theorem stamps?_perform (s : LiveStream) (call : Call) :
  stamps? (s.perform call).answer = (rebasing? (s, call)).map Rebasing.emitted
  := by
  cases call with
  | rebase id raw modulus =>
    change stamps? ((s.rebase id raw modulus).answer.map Answer.stamps) = _
    rw [rebase, answer_onTrack, rebasing?, LiveStream.track]
    cases s.tracks.find? id <;> rfl
  | advance => apply stamps?_map_eq_none fun _ => rfl
  | increment => apply stamps?_map_eq_none fun _ => rfl
  | baseTicks => apply stamps?_map_eq_none fun _ => rfl
  | setPhase => apply stamps?_map_eq_none fun _ => rfl
  | send => apply stamps?_map_eq_none fun _ => rfl
  | sendData => apply stamps?_map_eq_none fun _ => rfl
  | _ => rfl

theorem rebasing?_of_ends {s : LiveStream} {call : Call} (ends : endsEpoch (s, call)) :
  rebasing? (s, call) = none
  := by
  cases call with
  | stop => rfl
  | _ => cases ends

/-! ### Calls without packets -/

/-- A stop that closes no epoch comes to a stopped stream. -/
theorem stopped_of_not_ends {s : LiveStream} (stays : ¬ endsEpoch (s, .stop)) :
  s.phase = .stopped
  := by
  by_contra running
  exact stays (decide_eq_true running)

/-- Whether a call leaves the tracks as they are, and takes no increments of them. -/
def Call.keepsTracks : Call → Bool
  | .addTrack .. | .advance .. | .increment .. => false
  | _ => true

/-- A call that neither closes an epoch nor rebases a packet leaves the tracks and the
timeline as they are, or moves the bases on by an outage. -/
theorem perform_of_quiet {s : LiveStream} {call : Call} (keeps : call.keepsTracks)
    (stays : ¬ endsEpoch (s, call)) (silent : rebasing? (s, call) = none) :
  (s.perform call).state.tracks = s.tracks
    ∧ ((s.perform call).state.timeline = s.timeline
      ∨ ∃ gap, 0 ≤ gap ∧ (s.perform call).state.timeline = s.timeline.bridge s.tracks gap)
  := by
  constructor
  · rw [tracks_perform]
    cases call with
    | addTrack => cases keeps
    | _ => rfl
  · cases call with
    | advance => cases keeps
    | increment => cases keeps
    | start now => apply s.timeline_start now
    | stop =>
      left
      rw [timeline_perform, timelineCall?, if_pos (stopped_of_not_ends stays)]
      rfl
    | rebase id raw modulus =>
      have unknown : s.tracks.find? id = none := Option.map_eq_none_iff.mp silent
      left
      rw [timeline_perform, timelineCall?, unknown]
      rfl
    | _ => exact .inl (s.timeline_perform _)

/-! ### Runs -/

theorem emissions_cons (s : LiveStream) (call : Call) (calls : List Call) :
  s.emissions (call :: calls)
    = ((rebasing? (s, call)).map Rebasing.emitted).toList
      ++ (s.perform call).state.emissions calls
  := by
  rw [emissions, run, List.filterMap_cons, stamps?_perform]
  cases rebasing? (s, call) <;> rfl

theorem epochs_cons_of_ends {s : LiveStream} {call : Call} (ends : endsEpoch (s, call))
    (calls : List Call) :
  s.epochs (call :: calls) = [] :: (s.perform call).state.epochs calls
  := by
  rw [epochs, trace, MediaClock.trace, List.splitOnP_cons_eq_if_modifyHead, if_pos ends]
  rfl

/-- A call that does not close an epoch belongs to the first one. -/
theorem epochs_cons_of_not_ends {s : LiveStream} {call : Call} (stays : ¬ endsEpoch (s, call))
    (calls : List Call) :
  s.epochs (call :: calls)
    = ((s.perform call).state.epochs calls).modifyHead ((rebasing? (s, call)).toList ++ ·)
  := by
  rw [epochs, trace, MediaClock.trace, List.splitOnP_cons_eq_if_modifyHead, if_neg stays]
  change ((trace (s.perform call).state calls).splitOnP endsEpoch |>.modifyHead _).map _
    = (((trace (s.perform call).state calls).splitOnP endsEpoch).map _).modifyHead _
  cases (trace (s.perform call).state calls).splitOnP endsEpoch with
  | nil => rfl
  | cons head tail =>
    change (((s, call) :: head).filterMap rebasing?) :: _ = _ :: _
    rw [List.filterMap_cons]
    cases rebasing? (s, call) <;> rfl

theorem epochs_ne_nil (s : LiveStream) (calls : List Call) :
  s.epochs calls ≠ []
  := by
  rw [epochs, Ne, List.map_eq_nil_iff]
  apply List.splitOnP_ne_nil

/-- The epochs of a run emit what the run does. -/
theorem flatten_epochs (s : LiveStream) (calls : List Call) :
  (s.epochs calls).flatten.map Rebasing.emitted = s.emissions calls
  := by
  induction calls generalizing s with
  | nil => rfl
  | cons call calls ih =>
    rw [emissions_cons, ← ih]
    by_cases ends : endsEpoch (s, call)
    · rw [epochs_cons_of_ends ends, rebasing?_of_ends ends]
      rfl
    · rw [epochs_cons_of_not_ends ends]
      cases later : (s.perform call).state.epochs calls with
      | nil => exact absurd later (epochs_ne_nil _ _)
      | cons head tail =>
        cases rebasing? (s, call) <;> simp

end MediaClock.LiveStream
