import MediaClock.Proofs.Timeline.History

/-!
# Where an epoch is anchored

Closing an epoch moves the base of every track to the smallest of the last clock values.  A
track that is silent in an epoch takes part with the value that an earlier epoch has left
behind, and this may lie before the base that the epoch has had.  Apart from that, the base
does not fall: where all packets of an epoch come no earlier than its base, closing it moves
the base back exactly when a silent track has been left behind.
-/

namespace MediaClock.Timeline

variable {t : Timeline} {tracks : TrackSet} {b : Int}

/-- Closing an epoch moves no base back exactly when no last clock value lies before it. -/
theorem le_base_close_iff (common : ∀ id, tracks.contains id → t.base id = b) :
  (∀ id, tracks.contains id → b ≤ (t.close tracks).state.base id)
    ↔ ∀ id, tracks.contains id → ∀ last ∈ t.last? id, b ≤ last
  := by
  constructor
  · intro ahead id known last set
    cases anchored : t.anchor? tracks with
    | none =>
      rw [(t.anchor?_eq_none_iff tracks).mp anchored id known] at set
      cases set
    | some anchor =>
      have base := ahead id known
      rw [base_close, if_pos known, anchored, Option.getD_some] at base
      apply base.trans
      apply ((t.anchor?_eq_some_iff tracks anchor).mp anchored).2 id last known set
  · intro ahead id known
    rw [base_close, if_pos known]
    cases anchored : t.anchor? tracks with
    | none => rw [Option.getD_none, common id known]
    | some anchor =>
      obtain ⟨least, known, set⟩ := ((t.anchor?_eq_some_iff tracks anchor).mp anchored).1
      apply ahead least known anchor set

/-- Let the tracks of an epoch have one base, and let no packet of them come before it.  Then
closing the epoch moves no base back exactly when no track that was silent in the epoch has
a last clock value from before the base. -/
theorem anchored_ahead_iff (t : Timeline) (calls : List Call)
    (rebased : ∀ call ∈ calls, ¬ call.advances) (tracks : TrackSet) (b : Int)
    (common : ∀ id, tracks.contains id → (t.performAll calls).base id = b)
    (ahead : ∀ r ∈ t.rebasings calls, tracks.contains r.track.id → b ≤ r.last) :
  (∀ id, tracks.contains id →
      (t.performAll calls).base id ≤ ((t.performAll calls).close tracks).state.base id)
    ↔ ∀ id, tracks.contains id → (∀ r ∈ t.rebasings calls, r.track.id ≠ id) →
      ∀ last ∈ t.last? id, b ≤ last
  := by
  have bases : (∀ id, tracks.contains id →
      (t.performAll calls).base id ≤ ((t.performAll calls).close tracks).state.base id)
      ↔ ∀ id, tracks.contains id → b ≤ ((t.performAll calls).close tracks).state.base id := by
    apply forall_congr'
    intro id
    apply imp_congr_right
    intro known
    rw [common id known]
  rw [bases, le_base_close_iff common]
  constructor
  · intro all id known silent last set
    obtain ⟨r, mem, own, -⟩ | ⟨-, same⟩ := last?_performAll_cases (t := t) rebased id
    · exact absurd own (silent r mem)
    · apply all id known last (same.trans set)
  · intro silents id known last set
    obtain ⟨r, mem, own, latest⟩ | ⟨silent, same⟩ := last?_performAll_cases (t := t) rebased id
    · rw [latest] at set
      cases set
      apply ahead r mem
      rw [own]
      apply known
    · apply silents id known silent last (same.symm.trans set)

/-! ### A track that falls silent -/

/-- A video track and an audio track. -/
def bothTracks : TrackSet := .ofList [⟨⟨0⟩, .video, .rtmp⟩, ⟨⟨1⟩, .audio, .rtmp⟩]

theorem forall_bothTracks_iff {p : TrackId → Prop} :
  (∀ id, bothTracks.contains id → p id) ↔ p ⟨0⟩ ∧ p ⟨1⟩
  := by
  have keys : bothTracks.keys = [⟨0⟩, ⟨1⟩] := by decide
  simp only [← KeyedList.mem_keys, keys, List.forall_mem_cons]
  simp

/-- An epoch in which both tracks come in, and an outage after it. -/
def bothActive : List Call := [
  .rebase ⟨⟨0⟩, .video, .rtmp⟩ ⟨0, 0⟩ 100000,
  .rebase ⟨⟨1⟩, .audio, .rtmp⟩ ⟨400, 400⟩ 100000,
  .rebase ⟨⟨0⟩, .video, .rtmp⟩ ⟨500, 500⟩ 100000,
  .close bothTracks,
  .bridge bothTracks 100000]

/-- Packets of the video track from another counter. -/
def videoActive : List Call := [
  .rebase ⟨⟨0⟩, .video, .rtmp⟩ ⟨7000, 7000⟩ 100000,
  .rebase ⟨⟨0⟩, .video, .rtmp⟩ ⟨7900, 7900⟩ 100000]

/-- Where the audio track goes on as well, the next epoch is not closed behind its base. -/
theorem anchored_ahead_bothActive :
  let t := performAll { settings := ⟨.exact, true⟩ } bothActive
  let calls := videoActive ++ [.rebase ⟨⟨1⟩, .audio, .rtmp⟩ ⟨7100, 7100⟩ 100000]
  ∀ id, bothTracks.contains id →
    (t.performAll calls).base id ≤ ((t.performAll calls).close bothTracks).state.base id
  := by
  intro t calls
  apply (anchored_ahead_iff t calls (by decide) bothTracks 500000
    (forall_bothTracks_iff.mpr (by decide)) (by decide)).mpr
  exact forall_bothTracks_iff.mpr (by decide)

/-- Where the audio track falls silent, the next epoch is closed behind its base, though no
packet of it comes before the base. -/
theorem not_anchored_ahead_videoActive :
  let t := performAll { settings := ⟨.exact, true⟩ } bothActive
  (∀ id, bothTracks.contains id → (t.performAll videoActive).base id = 500000)
    ∧ (∃ r ∈ t.rebasings videoActive, bothTracks.contains r.track.id)
    ∧ (∀ r ∈ t.rebasings videoActive, 500000 ≤ r.last)
    ∧ ∀ id, bothTracks.contains id →
      ((t.performAll videoActive).close bothTracks).state.base id
        < (t.performAll videoActive).base id
  := by
  intro t
  refine ⟨forall_bothTracks_iff.mpr ?_, ?_, ?_, forall_bothTracks_iff.mpr ?_⟩
  all_goals decide

end MediaClock.Timeline
