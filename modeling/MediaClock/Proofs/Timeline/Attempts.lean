import Mathlib.Order.Bounds.Basic
import MediaClock.Proofs.Timeline.History

/-!
# Failed attempts to reconnect

An attempt to reconnect that fails bridges outages and closes the epoch again, with no packet in
between.  Bridging moves the bases of the tracks on.  Closing moves them to the anchor, which
comes from the last clock values, and these an attempt leaves alone.  So if there is an anchor,
closing forgets what was bridged before, and any number of attempts leaves the timeline as it is
after the epoch has been closed once.
-/

namespace MediaClock

/-- Setting values to one value forgets how they were updated before. -/
theorem TrackMap.update_update {α : Type} (m : TrackMap α) {ids : List TrackId}
    (distinct : ids.Nodup) (f : Option α → α) (value : α) :
  (m.update ids f).update ids (fun _ => value) = m.update ids fun _ => value
  := by
  apply TrackMap.ext_get?
  intro id
  rw [TrackMap.get?_update _ distinct, TrackMap.get?_update _ distinct,
    TrackMap.get?_update _ distinct]
  split <;> rfl

namespace Timeline

variable {t closed : Timeline} {tracks : TrackSet} {anchor : Int} {calls : List Call}

/-! ### Closing twice -/

/-- Closing an epoch with an anchor. -/
theorem state_close_of_anchored (anchored : t.anchor? tracks = some anchor) :
  (t.close tracks).state = { t with
    start? := none
    sources := ∅
    bases := t.bases.update tracks.keys fun _ => anchor
    pts := if t.settings.clearWraps then {} else t.pts
    dts := if t.settings.clearWraps then {} else t.dts }
  := by rw [close, anchored]

/-- Closing an epoch forgets an outage that was bridged before, if there is an anchor. -/
theorem state_close_bridge (anchored : t.anchor? tracks = some anchor) (gap : Int) :
  ((t.bridge tracks gap).close tracks).state = (t.close tracks).state
  := by
  have anchored' : (t.bridge tracks gap).anchor? tracks = some anchor := anchored
  rw [state_close_of_anchored anchored', state_close_of_anchored anchored, bridge,
    TrackMap.update_update _ tracks.nodup_keys]

/-- Closing an epoch twice is closing it once, if there is an anchor. -/
theorem state_close_close (anchored : t.anchor? tracks = some anchor) :
  ((t.close tracks).state.close tracks).state = (t.close tracks).state
  := by
  have anchored' : (t.close tracks).state.anchor? tracks = some anchor := anchored
  rw [state_close_of_anchored anchored', state_close_of_anchored anchored]
  simp only [TrackMap.update_update _ tracks.nodup_keys]
  split <;> rfl

/-! ### Any number of attempts -/

/-- Whether a call is part of an attempt for a set of tracks: it bridges an outage or closes the
epoch. -/
def Call.IsAttempt (tracks : TrackSet) : Call → Prop
  | .bridge others _ | .close others => others = tracks
  | .rebase .. | .advance .. | .increment .. => False

instance (tracks : TrackSet) : DecidablePred (Call.IsAttempt tracks)
  | .bridge .. | .close .. => inferInstanceAs (Decidable (_ = _))
  | .rebase .. | .advance .. | .increment .. => isFalse not_false

/-- That closing an epoch moves the bases to an anchor and leads to a timeline. -/
structure ClosesTo (t : Timeline) (tracks : TrackSet) (anchor : Int) (closed : Timeline) :
    Prop where
  anchored : t.anchor? tracks = some anchor
  state : (t.close tracks).state = closed

/-- An attempt does not change where closing leads to. -/
theorem ClosesTo.perform (closes : ClosesTo t tracks anchor closed) {call : Call}
    (attempt : call.IsAttempt tracks) :
  ClosesTo (t.perform call).state tracks anchor closed
  := by
  obtain ⟨anchored, rfl⟩ := closes
  cases call with
  | bridge others gap =>
    obtain rfl : others = tracks := attempt
    constructor
    · apply anchored
    · apply state_close_bridge anchored
  | close others =>
    obtain rfl : others = tracks := attempt
    constructor
    · apply anchored
    · apply state_close_close anchored
  | _ => apply attempt.elim

theorem ClosesTo.performAll (closes : ClosesTo t tracks anchor closed)
    (attempts : ∀ call ∈ calls, call.IsAttempt tracks) :
  ClosesTo (t.performAll calls) tracks anchor closed
  := by
  induction calls generalizing t with
  | nil => apply closes
  | cons call calls ih =>
    obtain ⟨first, rest⟩ := List.forall_mem_cons.mp attempts
    apply ih (closes.perform first) rest

/-- Closing answers the anchor at every attempt. -/
theorem ClosesTo.answer_of_mem_trace (closes : ClosesTo t tracks anchor closed)
    (attempts : ∀ call ∈ calls, call.IsAttempt tracks) {before : Timeline}
    (mem : (before, .close tracks) ∈ t.trace calls) :
  (before.perform (.close tracks)).answer = .anchor (some anchor)
  := by
  obtain ⟨i, entry⟩ := List.getElem?_of_mem mem
  rw [getElem?_trace] at entry
  obtain ⟨_, -, same⟩ := Option.map_eq_some_iff.mp entry
  cases same
  have earlier : ClosesTo (t.performAll (calls.take i)) tracks anchor closed := by
    apply closes.performAll
    intro call mem
    apply attempts call (List.mem_of_mem_take mem)
  apply congrArg Answer.anchor earlier.anchored

/-- If closing an epoch answers an anchor, any attempts for the same tracks that end with closing
the epoch again leave the timeline as it is after the epoch has been closed once, and closing
answers the anchor each time.  The anchor is the smallest last clock value of the tracks.  It
becomes the base of each of them, and the bases of other tracks stay as they were. -/
theorem attempts_leave_no_trace (t : Timeline) (tracks : TrackSet) (anchor : Int)
    (answer : (t.close tracks).answer = some anchor) (calls : List Call)
    (attempts : ∀ call ∈ calls, call.IsAttempt tracks) :
  t.performAll (calls ++ [.close tracks]) = (t.close tracks).state
    ∧ (∀ before, (before, .close tracks) ∈ t.trace (calls ++ [.close tracks]) →
      (before.perform (.close tracks)).answer = .anchor (some anchor))
    ∧ IsLeast {last | ∃ id, tracks.contains id ∧ t.last? id = some last} anchor
    ∧ (∀ id, (t.close tracks).state.bases.get? id
      = if tracks.contains id then some anchor else t.bases.get? id)
    ∧ ((t.close tracks).state.close tracks).state = (t.close tracks).state
  := by
  have closes : ClosesTo t tracks anchor (t.close tracks).state := ⟨answer, rfl⟩
  constructor
  · rw [performAll_concat]
    apply (closes.performAll attempts).state
  constructor
  · intro before mem
    apply closes.answer_of_mem_trace _ mem
    intro call mem
    obtain attempt | last := List.mem_append.mp mem
    · apply attempts call attempt
    · rw [List.mem_singleton.mp last]
      rfl
  constructor
  · obtain ⟨least, bound⟩ := (t.anchor?_eq_some_iff tracks anchor).mp answer
    constructor
    · apply least
    · rintro last ⟨id, known, set⟩
      apply bound id last known set
  constructor
  · intro id
    rw [state_close_of_anchored answer, TrackMap.get?_update _ tracks.nodup_keys,
      if_congr KeyedList.mem_keys rfl rfl]
  · apply state_close_close answer

/-- A timeline in the middle of an epoch, with a silent track and one that is not in the set. -/
def interrupted : Timeline where
  settings := ⟨.exact, true⟩
  start? := some 40
  bases := .ofList [(⟨0⟩, 300), (⟨9⟩, 700)]
  sources := .ofList [(⟨0⟩, 5)]
  lasts := .ofList [(⟨0⟩, 500), (⟨2⟩, 450), (⟨9⟩, 20)]
  dts := ⟨.ofList [(⟨0⟩, 1)], .ofList [(⟨0⟩, 8)]⟩

/-- The tracks of that timeline that are in the set, the second one silent. -/
def knownTracks : TrackSet :=
  .ofList [⟨⟨0⟩, .video, .rtmp⟩, ⟨⟨1⟩, .audio, .rtmp⟩, ⟨⟨2⟩, .data, .mpegTs⟩]

/-- Three outages and two failed attempts leave the bases at 450, where closing puts them. -/
theorem attempts_leave_no_trace_interrupted :
  (interrupted.close knownTracks).answer = some 450
    ∧ interrupted.performAll
        ([.bridge knownTracks 70, .close knownTracks, .bridge knownTracks 5,
          .bridge knownTracks 6] ++ [.close knownTracks])
      = (interrupted.close knownTracks).state
  := by
  have answer : (interrupted.close knownTracks).answer = some 450 := by decide
  constructor
  · apply answer
  · apply (attempts_leave_no_trace interrupted knownTracks 450 answer _ (by decide)).1

end Timeline

end MediaClock
