import MediaClock.Proofs.Rounding
import MediaClock.Proofs.Timeline.Runs

/-!
# Where a run leads

The settings of a timeline never change.  The start of an epoch stands until the epoch is
closed, and the last clock value of a track stands until a call sets another one.  So a run
that only rebases and bridges leaves a track with the last clock value of its latest packet,
or with the one that it had before if it was silent.  Whatever is called, bases and clock values
are timestamps.
-/

namespace MediaClock

namespace Rebasing

/-- The last clock value that the packet leaves behind, in microseconds. -/
def last (r : Rebasing) : Int :=
  r.track.timebase.toMicros r.before.settings.conversion r.emitted.dts

theorem last?_after (r : Rebasing) (id : TrackId) :
  r.after.last? id = if r.track.id = id then some r.last else r.before.last? id
  := Timeline.last?_rebase _ _ _ _ _

end Rebasing

namespace Timeline

/-- The timeline after a run. -/
def performAll (t : Timeline) (calls : List Call) : Timeline :=
  calls.foldl (fun t call => (t.perform call).state) t

theorem performAll_append (t : Timeline) (earlier later : List Call) :
  t.performAll (earlier ++ later) = (t.performAll earlier).performAll later
  := List.foldl_append

theorem performAll_concat (t : Timeline) (calls : List Call) (call : Call) :
  t.performAll (calls ++ [call]) = ((t.performAll calls).perform call).state
  := List.foldl_append

theorem trace_concat (t : Timeline) (calls : List Call) (call : Call) :
  t.trace (calls ++ [call]) = t.trace calls ++ [(t.performAll calls, call)]
  := MediaClock.trace_append _ _ _ _

/-- A call is made on the timeline that the calls before it lead to. -/
theorem getElem?_trace (t : Timeline) (calls : List Call) (i : ℕ) :
  (t.trace calls)[i]? = calls[i]?.map fun call => (t.performAll (calls.take i), call)
  := MediaClock.getElem?_trace _ _ _ _

/-- Whether a call closes an epoch. -/
def Call.closes : Call → Bool
  | .close .. => true
  | _ => false

/-- Whether a call sets the last clock value of a track. -/
def Call.setsLast (id : TrackId) : Call → Bool
  | .rebase track .. => track.id = id
  | .advance other .. => other = id
  | _ => false

/-- Whether a call advances a running clock. -/
def Call.advances : Call → Bool
  | .advance .. => true
  | _ => false

variable {t : Timeline} {id : TrackId} {call : Call} {calls : List Call}

/-! ### What a call leaves alone -/

theorem settings_perform (t : Timeline) (call : Call) :
  (t.perform call).state.settings = t.settings
  := by
  cases call with
  | increment id raw modulus =>
    change (t.increment id raw modulus).state.settings = t.settings
    rw [state_increment]
  | advance id raw modulus =>
    change (t.advance id raw modulus).state.settings = t.settings
    rw [state_advance]
  | _ => rfl

/-- The bases stand within an epoch. -/
theorem bases_perform (keeps : call.keepsEpoch) :
  (t.perform call).state.bases = t.bases
  := by
  cases call with
  | rebase => rfl
  | advance track raw modulus =>
    change (t.advance track raw modulus).state.bases = t.bases
    rw [state_advance]
  | increment track raw modulus =>
    change (t.increment track raw modulus).state.bases = t.bases
    rw [state_increment]
  | bridge => cases keeps
  | close => cases keeps

theorem base_perform (keeps : call.keepsEpoch) (id : TrackId) :
  (t.perform call).state.base id = t.base id
  := by rw [base, bases_perform keeps, base]

/-- The start of an epoch stands until the epoch is closed. -/
theorem start?_perform (stays : ¬ call.closes) {start : Int} (captured : t.start? = some start) :
  (t.perform call).state.start? = some start
  := by
  cases call with
  | rebase track raw modulus =>
    apply (t.start?_rebase track raw modulus).trans
    rw [startFrom, captured, Option.getD_some]
  | increment id raw modulus =>
    change (t.increment id raw modulus).state.start? = some start
    rw [state_increment]
    apply captured
  | advance id raw modulus =>
    change (t.advance id raw modulus).state.start? = some start
    rw [state_advance]
    apply captured
  | bridge => apply captured
  | close => exact absurd rfl stays

/-- The last clock value of a track stands until a call sets another one. -/
theorem last?_perform (other : ¬ call.setsLast id) :
  (t.perform call).state.last? id = t.last? id
  := by
  cases call with
  | rebase track raw modulus =>
    have ne : track.id ≠ id := fun same => other (decide_eq_true same)
    apply (t.last?_rebase track raw modulus id).trans (if_neg ne)
  | increment track raw modulus =>
    change (t.increment track raw modulus).state.last? id = t.last? id
    rw [state_increment]
    rfl
  | advance track raw modulus =>
    have ne : track ≠ id := fun same => other (decide_eq_true same)
    change (t.advance track raw modulus).state.last? id = t.last? id
    rw [state_advance]
    apply (TrackMap.get?_set _ _ _ _).trans (if_neg ne)
  | bridge => rfl
  | close => rfl

/-! ### What a run leaves alone -/

theorem settings_performAll (t : Timeline) (calls : List Call) :
  (t.performAll calls).settings = t.settings
  := by
  induction calls generalizing t with
  | nil => rfl
  | cons call calls ih => apply (ih _).trans (t.settings_perform call)

theorem start?_performAll (stays : ∀ call ∈ calls, ¬ call.closes) {start : Int}
    (captured : t.start? = some start) :
  (t.performAll calls).start? = some start
  := by
  induction calls generalizing t with
  | nil => apply captured
  | cons call calls ih =>
    obtain ⟨first, rest⟩ := List.forall_mem_cons.mp stays
    apply ih rest (start?_perform first captured)

theorem last?_performAll (others : ∀ call ∈ calls, ¬ call.setsLast id) :
  (t.performAll calls).last? id = t.last? id
  := by
  induction calls generalizing t with
  | nil => rfl
  | cons call calls ih =>
    obtain ⟨first, rest⟩ := List.forall_mem_cons.mp others
    apply (ih rest).trans (last?_perform first)

/-! ### Latest packets -/

/-- Where no running clock is advanced, a run leaves a track with the last clock value of one
of its packets, or it has no packets of the track and leaves it with the one from before. -/
theorem last?_performAll_cases (rebased : ∀ call ∈ calls, ¬ call.advances) (id : TrackId) :
  (∃ r ∈ t.rebasings calls, r.track.id = id ∧ (t.performAll calls).last? id = some r.last)
    ∨ (∀ r ∈ t.rebasings calls, r.track.id ≠ id) ∧ (t.performAll calls).last? id = t.last? id
  := by
  induction calls generalizing t with
  | nil =>
    right
    constructor
    · rintro _ ⟨⟩
    · rfl
  | cons call calls ih =>
    obtain ⟨first, rest⟩ := List.forall_mem_cons.mp rebased
    rw [rebasings_cons]
    obtain ⟨r, mem, own, last⟩ | ⟨silent, same⟩ := ih (t := (t.perform call).state) rest
    · left
      use r, List.mem_append_right _ mem, own, last
    · change (t.performAll (call :: calls)).last? id = _ at same
      rw [same]
      by_cases own : call.setsLast id
      · left
        cases call with
        | rebase track raw modulus =>
          use ⟨t, track, raw, modulus⟩, List.mem_append_left _ List.mem_cons_self,
            of_decide_eq_true own
          apply (Rebasing.last?_after ⟨t, track, raw, modulus⟩ id).trans
            (if_pos (of_decide_eq_true own))
        | advance => exact absurd rfl first
        | _ => cases own
      · right
        constructor
        · intro r mem
          obtain packet | later := List.mem_append.mp mem
          · cases call with
            | rebase track raw modulus =>
              obtain rfl := List.mem_singleton.mp packet
              exact fun same => own (decide_eq_true same)
            | _ => cases packet
          · apply silent r later
        · apply last?_perform own

/-! ### The range of timestamps -/

/-- That the bases and the last clock values are timestamps. -/
structure InRange (t : Timeline) : Prop where
  base : ∀ id, Saturating.Fits (t.base id)
  last : ∀ id, ∀ value ∈ t.last? id, Saturating.Fits value

/-- A new timeline has no bases and no clock values. -/
theorem inRange_new (settings : Settings) :
  InRange { settings }
  := by
  constructor
  · intro id
    change Saturating.Fits 0
    decide
  · rintro id _ ⟨⟩

/-- Every base and every clock value that is set is clamped, or an anchor. -/
theorem InRange.perform (range : InRange t) (call : Call) :
  InRange (t.perform call).state
  := by
  obtain ⟨base, last⟩ := range
  cases call with
  | rebase track raw modulus =>
    constructor
    · exact base
    · intro id value set
      change value ∈ (t.rebase track raw modulus).state.last? id at set
      rw [last?_rebase] at set
      split at set
      · cases set
        apply Timebase.fits_toMicros
      · apply last id value set
  | advance track raw modulus =>
    change InRange (t.advance track raw modulus).state
    rw [state_advance]
    constructor
    · exact base
    · intro id value set
      change value ∈ (t.lasts.set track _).get? id at set
      rw [TrackMap.get?_set] at set
      split at set
      · cases set
        apply Saturating.fits_clamp
      · apply last id value set
  | increment track raw modulus =>
    change InRange (t.increment track raw modulus).state
    rw [state_increment]
    exact ⟨base, last⟩
  | bridge tracks gap =>
    constructor
    · intro id
      change Saturating.Fits ((t.bridge tracks gap).base id)
      rw [base_bridge]
      split
      · apply Saturating.fits_clamp
      · apply base
    · exact last
  | close tracks =>
    constructor
    · intro id
      change Saturating.Fits ((t.close tracks).state.base id)
      rw [base_close]
      split
      · cases anchored : t.anchor? tracks with
        | none => apply base
        | some anchor =>
          obtain ⟨⟨least, -, set⟩, -⟩ := (t.anchor?_eq_some_iff tracks anchor).mp anchored
          apply last least anchor set
      · apply base
    · exact last

end Timeline

end MediaClock
