import MediaClock.Proofs.Tally
import MediaClock.Proofs.Timeline.History

/-!
# Interleaved tracks

Within an epoch the tracks of a timeline share its start and the settings, and nothing else.  A
call for a track does on the whole timeline what it does on the part of the track, and it leaves
the parts of other tracks alone.  So what a run answers to a track, and the part of the track
that it leads to, come from the calls for the track, in whatever order they alternate with the
others.  Since a timeline is made up of its parts, calls for different tracks may be interleaved
in any way.
-/

namespace MediaClock

/-- Two lists whose entries with a key are the same, for each key, are in another order only. -/
theorem perm_of_filter_key {α κ : Type} [DecidableEq α] [DecidableEq κ] (key : α → κ)
    {l m : List α} (same : ∀ k, l.filter (key · = k) = m.filter (key · = k)) :
  l.Perm m
  := by
  apply List.perm_iff_count.mpr
  intro a
  let own (b : α) : Bool := key b = key a
  have passes : own a := decide_eq_true rfl
  calc l.count a
    _ = (l.filter own).count a := (List.count_filter passes).symm
    _ = (m.filter own).count a := congrArg (List.count a) (same (key a))
    _ = m.count a := List.count_filter passes

namespace TrackMap

variable {α : Type}

/-- The map with the entry of one track only. -/
def only (m : TrackMap α) (id : TrackId) : TrackMap α := m.restrict (· = id)

theorem get?_only (m : TrackMap α) (id : TrackId) :
  (m.only id).get? id = m.get? id
  := by
  apply (m.get?_restrict _ id).trans
  apply if_pos (decide_eq_true rfl)

theorem only_set (m : TrackMap α) (id : TrackId) (value : α) :
  (m.set id value).only id = (m.only id).set id value
  := m.restrict_set_of_pass (decide_eq_true rfl) value

theorem only_set_of_ne (m : TrackMap α) {id other : TrackId} (ne : id ≠ other) (value : α) :
  (m.set id value).only other = m.only other
  := m.restrict_set_of_fail (ne <| of_decide_eq_true ·) value

/-- A map is made up of its entries. -/
theorem ext_only {m n : TrackMap α} (same : ∀ id, m.only id = n.only id) :
  m = n
  := by
  apply ext_get?
  intro id
  rw [← m.get?_only, same, n.get?_only]

end TrackMap

namespace Unwrapper

variable (u : Unwrapper)

/-- The unwrapper with the entries of one track only. -/
def only (id : TrackId) : Unwrapper := ⟨u.counts.only id, u.origins.only id⟩

theorem turn_only (modulus : Int) (id : TrackId) (raw : Int) :
  (u.only id).turn modulus id raw = u.turn modulus id raw
  := congrArg (Turn.between modulus · raw) (u.origins.get?_only id)

theorem count_only (id : TrackId) :
  (u.only id).count id = u.count id
  := congrArg (·.getD 0) (u.counts.get?_only id)

theorem periods_only (id : TrackId) (turn : Turn) :
  (u.only id).periods id turn = u.periods id turn
  := by
  cases turn with
  | level => apply u.count_only
  | forward => apply congrArg (· + 1) (u.count_only id)
  | reverse => apply congrArg (· - 1) (u.count_only id)

theorem only_record (id : TrackId) (raw : Int) (turn : Turn) :
  (u.record id raw turn).only id = (u.only id).record id raw turn
  := by
  cases turn with
  | level => exact congrArg (Unwrapper.mk _) (u.origins.only_set id raw)
  | forward =>
    rw [record, only, TrackMap.only_set, TrackMap.only_set, record, count_only]
    rfl
  | reverse => rfl

theorem only_record_of_ne {id other : TrackId} (ne : id ≠ other) (raw : Int) (turn : Turn) :
  (u.record id raw turn).only other = u.only other
  := by
  cases turn with
  | level => exact congrArg (Unwrapper.mk _) (u.origins.only_set_of_ne ne raw)
  | forward => rw [record, only, TrackMap.only_set_of_ne _ ne, TrackMap.only_set_of_ne _ ne, only]
  | reverse => rfl

theorem ext_only {u v : Unwrapper} (same : ∀ id, u.only id = v.only id) :
  u = v
  := by
  obtain ⟨counts, origins⟩ := u
  obtain ⟨counts', origins'⟩ := v
  obtain rfl : counts = counts' := TrackMap.ext_only fun id => congrArg Unwrapper.counts (same id)
  obtain rfl : origins = origins' :=
    TrackMap.ext_only fun id => congrArg Unwrapper.origins (same id)
  rfl

end Unwrapper

namespace Timeline

/-! ### The part of a track -/

/-- The timeline with the entries of one track only. -/
def only (t : Timeline) (id : TrackId) : Timeline where
  settings := t.settings
  start? := t.start?
  bases := t.bases.only id
  sources := t.sources.only id
  lasts := t.lasts.only id
  pts := t.pts.only id
  dts := t.dts.only id

/-- A timeline is made up of the parts of its tracks. -/
theorem ext_only {t u : Timeline} (same : ∀ id, t.only id = u.only id) :
  t = u
  := by
  obtain ⟨settings, start?, bases, sources, lasts, pts, dts⟩ := t
  obtain ⟨settings', start?', bases', sources', lasts', pts', dts'⟩ := u
  obtain rfl : settings = settings' := congrArg Timeline.settings (same default)
  obtain rfl : start? = start?' := congrArg Timeline.start? (same default)
  obtain rfl : bases = bases' := TrackMap.ext_only fun id => congrArg Timeline.bases (same id)
  obtain rfl : sources = sources' := TrackMap.ext_only fun id => congrArg Timeline.sources (same id)
  obtain rfl : lasts = lasts' := TrackMap.ext_only fun id => congrArg Timeline.lasts (same id)
  obtain rfl : pts = pts' := Unwrapper.ext_only fun id => congrArg Timeline.pts (same id)
  obtain rfl : dts = dts' := Unwrapper.ext_only fun id => congrArg Timeline.dts (same id)
  rfl

/-- The track that a call is for, if it is for a single one. -/
def Call.track? : Call → Option TrackId
  | .rebase track .. => some track.id
  | .advance id .. | .increment id .. => some id
  | .bridge .. | .close .. => none

theorem base_only (t : Timeline) (id : TrackId) :
  (t.only id).base id = t.base id
  := congrArg (·.getD 0) (t.bases.get?_only id)

theorem shift_only (t : Timeline) (track : Track) (start raw : Int) :
  (t.only track.id).shift track start raw = t.shift track start raw
  := by
  rw [shift, baseTicks, base_only]
  rfl

theorem turnNotices_only (field : Field) (u : Unwrapper) (id : TrackId) (raw : Int) (turn : Turn) :
  turnNotices field (u.only id) id raw turn = turnNotices field u id raw turn
  := by
  rw [turnNotices]
  change (turn.direction?.bind fun direction => ((u.origins.only id).get? id).map _).toList = _
  rw [TrackMap.get?_only]
  rfl

theorem rebase_only (t : Timeline) (track : Track) (raw : Stamps) (modulus : Int) :
  (t.only track.id).rebase track raw modulus
    = { t.rebase track raw modulus with
        state := (t.rebase track raw modulus).state.only track.id }
  := by
  have pts : (t.only track.id).pts = t.pts.only track.id := rfl
  have dts : (t.only track.id).dts = t.dts.only track.id := rfl
  simp only [rebase, pts, dts, Unwrapper.turn_only, Unwrapper.periods_only, shift_only,
    turnNotices_only, ← Unwrapper.only_record]
  simp only [only, startFrom, TrackMap.only_set]
  rfl

theorem increment_only (t : Timeline) (id : TrackId) (raw modulus : Int) :
  (t.only id).increment id raw modulus
    = { t.increment id raw modulus with state := (t.increment id raw modulus).state.only id }
  := by
  have state : { t.only id with sources := (t.only id).sources.set id raw }
      = only { t with sources := t.sources.set id raw } id := by
    rw [only, only, TrackMap.only_set]
  have last : (t.only id).sources.get? id = t.sources.get? id := t.sources.get?_only id
  rw [increment, increment, last, state]
  cases t.sources.get? id with
  | none => rfl
  | some last =>
    by_cases ahead : last ≤ raw
    · simp only [if_pos ahead]
    · simp only [if_neg ahead]
      split <;> rfl

theorem advance_only (t : Timeline) (id : TrackId) (raw modulus : Int) :
  (t.only id).advance id raw modulus
    = { t.advance id raw modulus with state := (t.advance id raw modulus).state.only id }
  := by
  have last : (t.only id).last? id = t.last? id := t.lasts.get?_only id
  rw [advance, increment_only, last, advance]
  simp only [only, TrackMap.only_set]

/-- A call for a track does on the part of the track what it does on the timeline. -/
theorem perform_only (t : Timeline) {call : Call} {id : TrackId} (own : call.track? = some id) :
  (t.only id).perform call
    = { t.perform call with state := (t.perform call).state.only id }
  := by
  cases call with
  | rebase track raw modulus =>
    cases own
    rw [perform, rebase_only]
    rfl
  | advance other raw modulus =>
    cases own
    rw [perform, advance_only]
    rfl
  | increment other raw modulus =>
    cases own
    rw [perform, increment_only]
    rfl
  | bridge => cases own
  | close => cases own

/-- A call for a track leaves the parts of other tracks alone, apart from the start, which is shared
by all tracks. -/
theorem only_perform_but_start {t : Timeline} {call : Call} (keeps : call.keepsEpoch) {id : TrackId}
    (other : call.track? ≠ some id) :
  { (t.perform call).state.only id with start? := t.start? } = t.only id
  := by
  cases call with
  | rebase track raw modulus =>
    have ne : track.id ≠ id := fun same => other (congrArg some same)
    change { (t.rebase track raw modulus).state.only id with start? := t.start? } = _
    simp only [rebase, only, TrackMap.only_set_of_ne _ ne, Unwrapper.only_record_of_ne _ ne]
  | advance track raw modulus =>
    have ne : track ≠ id := fun same => other (congrArg some same)
    change { (t.advance track raw modulus).state.only id with start? := t.start? } = _
    rw [state_advance]
    simp only [only, TrackMap.only_set_of_ne _ ne]
  | increment track raw modulus =>
    have ne : track ≠ id := fun same => other (congrArg some same)
    change { (t.increment track raw modulus).state.only id with start? := t.start? } = _
    rw [state_increment]
    simp only [only, TrackMap.only_set_of_ne _ ne]
  | bridge => cases keeps
  | close => cases keeps

/-- A call that stays within an epoch does not close it. -/
theorem not_closes_of_keepsEpoch {call : Call} (keeps : call.keepsEpoch) :
  ¬ call.closes
  := by
  cases call with
  | close => cases keeps
  | _ => nofun

/-- A call for a track leaves the parts of other tracks alone, once the epoch has a start. -/
theorem only_perform_of_other {t : Timeline} (captured : t.start?.isSome) {call : Call}
    (keeps : call.keepsEpoch) {id : TrackId} (other : call.track? ≠ some id) :
  (t.perform call).state.only id = t.only id
  := by
  obtain ⟨start, captured⟩ := Option.isSome_iff_exists.mp captured
  have stands : (t.perform call).state.start? = t.start? :=
    (start?_perform (not_closes_of_keepsEpoch keeps) captured).trans captured.symm
  calc (t.perform call).state.only id
    _ = { (t.perform call).state.only id with start? := t.start? } := by
      rw [← stands]
      rfl
    _ = t.only id := only_perform_but_start keeps other

/-! ### Runs -/

/-- What a call answers and notices, and the track that it is for. -/
structure Response where
  track? : Option TrackId
  answer : Answer
  notices : List Notice
deriving DecidableEq

/-- The response of a call on the timeline that it is made on. -/
def response (entry : Timeline × Call) : Response where
  track? := entry.2.track?
  answer := (entry.1.perform entry.2).answer
  notices := (entry.1.perform entry.2).notices

/-- The responses of a run, one for each call. -/
def responses (t : Timeline) (calls : List Call) : List Response := (t.trace calls).map response

/-- The responses of a run to a track, in order. -/
def responsesOf (t : Timeline) (id : TrackId) (calls : List Call) : List Response :=
  (t.responses calls).filter (·.track? = some id)

/-- The increments of counters in a run. -/
def increments (t : Timeline) (calls : List Call) : List Increment :=
  (t.run calls).flatMap fun step => step.notices.filterMap Notice.increment?

/-- The calls for a track, in order. -/
def callsOf (id : TrackId) (calls : List Call) : List Call :=
  calls.filter (·.track? = some id)

variable {t : Timeline} {call : Call} {id : TrackId} {calls : List Call}

theorem responses_cons (t : Timeline) (call : Call) (calls : List Call) :
  t.responses (call :: calls) = response (t, call) :: (t.perform call).state.responses calls
  := rfl

theorem responsesOf_cons_of_own (own : call.track? = some id) (t : Timeline) (calls : List Call) :
  t.responsesOf id (call :: calls)
    = response (t, call) :: (t.perform call).state.responsesOf id calls
  := List.filter_cons_of_pos (decide_eq_true own)

theorem responsesOf_cons_of_other (other : call.track? ≠ some id) (t : Timeline)
    (calls : List Call) :
  t.responsesOf id (call :: calls) = (t.perform call).state.responsesOf id calls
  := List.filter_cons_of_neg (mt of_decide_eq_true other)

theorem callsOf_cons_of_own (own : call.track? = some id) (calls : List Call) :
  callsOf id (call :: calls) = call :: callsOf id calls
  := List.filter_cons_of_pos (decide_eq_true own)

theorem callsOf_cons_of_other (other : call.track? ≠ some id) (calls : List Call) :
  callsOf id (call :: calls) = callsOf id calls
  := List.filter_cons_of_neg (mt of_decide_eq_true other)

theorem increments_eq_flatMap (t : Timeline) (calls : List Call) :
  t.increments calls
    = (t.responses calls).flatMap fun response => response.notices.filterMap Notice.increment?
  := by
  rw [increments, run_eq_map_trace, List.flatMap_map, responses, List.flatMap_map]
  rfl

/-- A call that stays within the epoch is for a single track. -/
theorem isSome_track? (keeps : call.keepsEpoch) :
  call.track?.isSome
  := by
  cases call with
  | bridge => cases keeps
  | close => cases keeps
  | _ => rfl

theorem isSome_start?_perform (captured : t.start?.isSome) (keeps : call.keepsEpoch) :
  (t.perform call).state.start?.isSome
  := by
  obtain ⟨start, captured⟩ := Option.isSome_iff_exists.mp captured
  exact Option.isSome_of_mem (start?_perform (not_closes_of_keepsEpoch keeps) captured)

/-- A run responds to a track what the calls for the track alone do on the part of the track,
and it leads to the same part. -/
theorem responsesOf_only (captured : t.start?.isSome) (keeps : ∀ call ∈ calls, call.keepsEpoch)
    (id : TrackId) :
  t.responsesOf id calls = (t.only id).responses (callsOf id calls)
    ∧ (t.performAll calls).only id = (t.only id).performAll (callsOf id calls)
  := by
  induction calls generalizing t with
  | nil => exact ⟨rfl, rfl⟩
  | cons call calls ih =>
    obtain ⟨first, rest⟩ := List.forall_mem_cons.mp keeps
    obtain ⟨later, final⟩ := ih (isSome_start?_perform captured first) rest
    by_cases own : call.track? = some id
    · have same := t.perform_only own
      have now : response (t.only id, call) = response (t, call) := by
        rw [response, same]
        rfl
      have state : ((t.only id).perform call).state = (t.perform call).state.only id := by
        rw [same]
      rw [responsesOf_cons_of_own own, callsOf_cons_of_own own, responses_cons, now, state]
      constructor
      · rw [later]
      · apply final.trans
        rw [← state]
        rfl
    · rw [responsesOf_cons_of_other own, callsOf_cons_of_other own,
        ← only_perform_of_other captured first own]
      exact ⟨later, final⟩

/-- That a run is made up of given calls for each track, in their own order, within an epoch. -/
structure Interleaves (family : TrackId → List Call) (calls : List Call) : Prop where
  keeps : ∀ call ∈ calls, call.keepsEpoch
  order : ∀ id, callsOf id calls = family id

/-- Every response of a run within an epoch is one to a track. -/
theorem filter_responses_none (keeps : ∀ call ∈ calls, call.keepsEpoch) :
  (t.responses calls).filter (·.track? = none) = []
  := by
  apply List.filter_eq_nil_iff.mpr
  intro response mem untracked
  obtain ⟨entry, traced, rfl⟩ := List.mem_map.mp mem
  have called : entry.2 ∈ calls := by
    rw [← MediaClock.map_snd_trace (fun t call => (perform t call).state) t calls]
    exact List.mem_map_of_mem traced
  have untracked : entry.2.track? = none := of_decide_eq_true untracked
  have tracked := isSome_track? (keeps _ called)
  rw [untracked] at tracked
  cases tracked

/-- Once an epoch has a start, the calls for its tracks may be interleaved in any way: each track
gets the same responses in the same order, the run leads to the same timeline, and it adds the
same to every counter. -/
theorem interleavings_agree {family : TrackId → List Call} {xs ys : List Call}
    (captured : t.start?.isSome) (one : Interleaves family xs) (other : Interleaves family ys) :
  (∀ id, t.responsesOf id xs = t.responsesOf id ys)
    ∧ t.performAll xs = t.performAll ys
    ∧ ∀ counter, Tally.total ⟨t.increments xs⟩ counter = Tally.total ⟨t.increments ys⟩ counter
  := by
  have responses (id : TrackId) : t.responsesOf id xs = t.responsesOf id ys := by
    rw [(responsesOf_only captured one.keeps id).1, one.order, ← other.order,
      (responsesOf_only captured other.keeps id).1]
  use responses
  constructor
  · apply ext_only
    intro id
    rw [(responsesOf_only captured one.keeps id).2, one.order, ← other.order,
      (responsesOf_only captured other.keeps id).2]
  · have perm : (t.responses xs).Perm (t.responses ys) := by
      apply perm_of_filter_key Response.track?
      intro track?
      cases track? with
      | none => rw [filter_responses_none one.keeps, filter_responses_none other.keeps]
      | some id => apply responses id
    intro counter
    apply Tally.total_of_perm
    rw [increments_eq_flatMap, increments_eq_flatMap]
    apply perm.flatMap_right

/-- Calls for two tracks: video whose counter turns, and audio whose clock is advanced from raw
values that step back. -/
def videoAndAudio (id : TrackId) : List Call :=
  if id = ⟨0⟩ then [
    .rebase ⟨⟨0⟩, .video, .rtmp⟩ ⟨950, 900⟩ 1000,
    .rebase ⟨⟨0⟩, .video, .rtmp⟩ ⟨20, 10⟩ 1000,
    .rebase ⟨⟨0⟩, .video, .rtmp⟩ ⟨990, 40⟩ 1000]
  else if id = ⟨1⟩ then [
    .advance ⟨1⟩ 700 1000,
    .advance ⟨1⟩ 300 1000,
    .increment ⟨1⟩ 400 1000]
  else []

/-- The tracks one after the other, the audio first. -/
def audioThenVideo : List Call := videoAndAudio ⟨1⟩ ++ videoAndAudio ⟨0⟩

/-- The tracks in turn, the video first. -/
def videoInTurn : List Call := [
  .rebase ⟨⟨0⟩, .video, .rtmp⟩ ⟨950, 900⟩ 1000,
  .advance ⟨1⟩ 700 1000,
  .rebase ⟨⟨0⟩, .video, .rtmp⟩ ⟨20, 10⟩ 1000,
  .advance ⟨1⟩ 300 1000,
  .rebase ⟨⟨0⟩, .video, .rtmp⟩ ⟨990, 40⟩ 1000,
  .increment ⟨1⟩ 400 1000]

/-- Calls for the two tracks that keep to the order of each are interleaved. -/
theorem interleaves_videoAndAudio (keeps : ∀ call ∈ calls, call.keepsEpoch)
    (video : callsOf ⟨0⟩ calls = videoAndAudio ⟨0⟩) (audio : callsOf ⟨1⟩ calls = videoAndAudio ⟨1⟩)
    (two : ∀ call ∈ calls, call.track? = some ⟨0⟩ ∨ call.track? = some ⟨1⟩) :
  Interleaves videoAndAudio calls
  := by
  constructor
  · apply keeps
  · intro id
    by_cases isVideo : id = ⟨0⟩
    · rw [isVideo, video]
    · by_cases isAudio : id = ⟨1⟩
      · rw [isAudio, audio]
      · rw [videoAndAudio, if_neg isVideo, if_neg isAudio]
        apply List.filter_eq_nil_iff.mpr
        intro call mem own
        have own : call.track? = some id := of_decide_eq_true own
        obtain other | other := two call mem
        · exact isVideo (Option.some.inj (own.symm.trans other))
        · exact isAudio (Option.some.inj (own.symm.trans other))

theorem interleavings_agree_twoTracks :
  let t : Timeline := { start? := some 0 }
  t.start?.isSome
    ∧ Interleaves videoAndAudio audioThenVideo ∧ Interleaves videoAndAudio videoInTurn
    ∧ (∀ id, t.responsesOf id audioThenVideo = t.responsesOf id videoInTurn)
    ∧ t.performAll audioThenVideo = t.performAll videoInTurn
    ∧ ∀ counter,
      Tally.total ⟨t.increments audioThenVideo⟩ counter
        = Tally.total ⟨t.increments videoInTurn⟩ counter
  := by
  intro t
  have one : Interleaves videoAndAudio audioThenVideo :=
    interleaves_videoAndAudio (by decide) (by decide) (by decide) (by decide)
  have other : Interleaves videoAndAudio videoInTurn :=
    interleaves_videoAndAudio (by decide) (by decide) (by decide) (by decide)
  exact ⟨rfl, one, other, interleavings_agree rfl one other⟩

end Timeline

end MediaClock
