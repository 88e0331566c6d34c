import Mathlib.Algebra.BigOperators.Finprod
import Mathlib.Data.FinEnum
import Mathlib.Data.List.DropRight
import MediaClock.Proofs.Tally
import MediaClock.Proofs.Timeline.Entries
import MediaClock.Proofs.Timeline.Interleaving

/-!
# Counted discontinuities

A timeline keeps the turns that it has seen, and it also reports them to counters.  The two agree:
the turns that are counted since the timeline has last forgotten its turns are those that it keeps,
over all tracks.  Late values are counted as well, for presentation timestamps only, but nothing
is kept of them.  And a step back of a raw value is counted exactly once, under the kind that it
is taken for.
-/

namespace MediaClock

instance : Finite TrackId :=
  Finite.of_injective TrackId.val fun _ _ same => congrArg TrackId.mk same

/-- A raw value adds its turn, if it is a forward one, to the turns of all tracks. -/
theorem Unwrapper.sum_count_record (u : Unwrapper) (id : TrackId) (raw : Int) (turn : Turn) :
  ∑ᶠ other, (u.record id raw turn).count other
    = (∑ᶠ other, u.count other) + if turn = .forward then 1 else 0
  := by
  cases turn with
  | level => rfl
  | reverse => rfl
  | forward =>
    have count (other : TrackId) :
        (u.record id raw .forward).count other = u.count other + if other = id then 1 else 0 := by
      rw [Unwrapper.count, Unwrapper.record, TrackMap.get?_set]
      by_cases same : id = other
      · rw [if_pos same, if_pos same.symm, ← same, Option.getD_some]
      · rw [if_neg same, if_neg (Ne.symm same), add_zero, Unwrapper.count]
    calc ∑ᶠ other, (u.record id raw .forward).count other
      _ = ∑ᶠ other, (u.count other + if other = id then 1 else 0) := finsum_congr count
      _ = (∑ᶠ other, u.count other) + ∑ᶠ other, if other = id then 1 else 0 :=
        finsum_add_distrib (Set.toFinite _) (Set.toFinite _)
      _ = (∑ᶠ other, u.count other) + 1 := by
        rw [finsum_eq_single _ id fun other ne => if_neg ne, if_pos rfl]

namespace Timeline

/-- The increments that a call makes. -/
def counted (entry : Timeline × Call) : List Increment :=
  (entry.1.perform entry.2).notices.filterMap Notice.increment?

/-- Whether a call closes an epoch on a timeline that then forgets the turns of its counters. -/
def forgetsTurns : Timeline × Call → Bool
  | (t, .close _) => t.settings.clearWraps
  | _ => false

/-- The calls since turns were last forgotten, or since the beginning of the run. -/
def sinceForgotten (t : Timeline) (calls : List Call) : List (Timeline × Call) :=
  (t.trace calls).rtakeWhile fun entry => ¬ forgetsTurns entry

/-- Whether a call takes the increment of a raw value that lies below the last one of its track. -/
def stepsBack : Timeline × Call → Bool
  | (t, .advance id raw _) | (t, .increment id raw _) => (t.sources.get? id).any (raw < ·)
  | _ => false

/-- What the turn of a field is settled as by a call. -/
def turnOf (field : Field) : Timeline × Call → Turn
  | (t, .rebase track raw modulus) =>
    field.settle ((t.unwrapper field).turn modulus track.id (raw.get field))
  | _ => .level

/-- What a step back is taken for by a call. -/
def stepBack? : Timeline × Call → Option Discontinuity
  | (t, .advance id raw modulus) | (t, .increment id raw modulus) =>
    (t.sources.get? id).bind fun last =>
      if last ≤ raw then none
      else some (if nearTop last modulus then .wraparound else .sourceRestart)
  | _ => none

/-- The increment of a turn of a field, unless it is level. -/
def turnIncrements (field : Field) (turn : Turn) : List Increment :=
  turn.direction?.toList.map fun direction => ⟨.wraparounds field direction, 1⟩

/-- The increment of a step back. -/
def stepIncrements (kind? : Option Discontinuity) : List Increment :=
  kind?.toList.map fun kind => ⟨.deltaDiscontinuities kind, 1⟩

variable {t : Timeline} {call : Call} {calls : List Call} {field : Field}

/-! ### What a call counts -/

/-- A turn is noticed unless it is level, since there is an origin then. -/
theorem increments_turnNotices (field : Field) (u : Unwrapper) (modulus : Int) (id : TrackId)
    (raw : Int) :
  (turnNotices field u id raw (field.settle (u.turn modulus id raw))).filterMap Notice.increment?
    = turnIncrements field (field.settle (u.turn modulus id raw))
  := by
  rw [turnNotices, Unwrapper.turn]
  cases u.origins.get? id with
  | none => cases field <;> rfl
  | some last => cases field.settle (Turn.between modulus (some last) raw) <;> rfl

theorem increments_increment (t : Timeline) (id : TrackId) (raw modulus : Int) :
  (t.increment id raw modulus).notices.filterMap Notice.increment?
    = stepIncrements (stepBack? (t, .increment id raw modulus))
  := by
  rw [increment, stepBack?]
  cases t.sources.get? id with
  | none => rfl
  | some last =>
    rw [Option.bind_some]
    by_cases ahead : last ≤ raw
    · simp only [if_pos ahead]
      rfl
    · simp only [if_neg ahead]
      split <;> rfl

theorem increments_rebase (t : Timeline) (track : Track) (raw : Stamps) (modulus : Int) :
  (t.rebase track raw modulus).notices.filterMap Notice.increment?
    = turnIncrements .pts (turnOf .pts (t, .rebase track raw modulus))
      ++ turnIncrements .dts (turnOf .dts (t, .rebase track raw modulus))
  := by
  have started (start : Int) : List.filterMap Notice.increment?
      (if t.start?.isNone then [.epochStarted track raw.dts start] else []) = [] := by
    split <;> rfl
  rw [rebase, List.filterMap_append, List.filterMap_append, started, List.nil_append]
  congr 1
  · apply increments_turnNotices .pts
  · apply increments_turnNotices .dts

theorem increments_close (t : Timeline) (tracks : TrackSet) :
  (t.close tracks).notices.filterMap Notice.increment? = []
  := by
  rw [close]
  cases t.anchor? tracks with
  | none => rfl
  | some anchor =>
    apply List.filterMap_eq_nil_iff.mpr
    exact List.forall_mem_map.mpr fun _ _ => rfl

/-- A call counts the turns of both fields, and a step back. -/
theorem counted_eq (entry : Timeline × Call) :
  counted entry
    = turnIncrements .pts (turnOf .pts entry) ++ turnIncrements .dts (turnOf .dts entry)
      ++ stepIncrements (stepBack? entry)
  := by
  obtain ⟨t, call⟩ := entry
  cases call with
  | rebase track raw modulus =>
    apply (t.increments_rebase track raw modulus).trans
    exact (List.append_nil _).symm
  | advance id raw modulus => apply t.increments_increment id raw modulus
  | increment id raw modulus => apply t.increments_increment id raw modulus
  | bridge => rfl
  | close tracks => apply t.increments_close tracks

theorem turnOf_dts_ne_reverse (entry : Timeline × Call) :
  turnOf .dts entry ≠ .reverse
  := by
  obtain ⟨t, call⟩ := entry
  cases call with
  | rebase track raw modulus =>
    change (t.dts.turn modulus track.id raw.dts).onward ≠ .reverse
    cases t.dts.turn modulus track.id raw.dts <;> nofun
  | _ => nofun

/-- A call steps back exactly when it takes the step for something. -/
theorem isSome_stepBack? (entry : Timeline × Call) :
  (stepBack? entry).isSome = stepsBack entry
  := by
  have taken (t : Timeline) (id : TrackId) (raw modulus : Int) :
      (stepBack? (t, .increment id raw modulus)).isSome = (t.sources.get? id).any (raw < ·) := by
    rw [stepBack?]
    cases t.sources.get? id with
    | none => rfl
    | some last =>
      rw [Option.bind_some, Option.any_some]
      split
      next ahead => exact (decide_eq_false (not_lt.mpr ahead)).symm
      next back => exact (decide_eq_true (not_le.mp back)).symm
  obtain ⟨t, call⟩ := entry
  cases call with
  | advance id raw modulus => apply taken t id raw modulus
  | increment id raw modulus => apply taken
  | _ => rfl

/-- Every increment that a call counts is by one. -/
theorem amount_of_counted {entry : Timeline × Call} {increment : Increment}
    (mem : increment ∈ counted entry) :
  increment.amount = 1
  := by
  rw [counted_eq, List.mem_append, List.mem_append] at mem
  obtain (mem | mem) | mem := mem <;> obtain ⟨_, _, rfl⟩ := List.mem_map.mp mem <;> rfl

/-- A call that counts a turn of a field settles it as one of that direction. -/
theorem turnOf_of_counted {entry : Timeline × Call} {direction : Direction}
    (mem : ∃ increment ∈ counted entry, increment.counter = .wraparounds field direction) :
  (turnOf field entry).direction? = some direction
  := by
  have own {other : Field} {increment : Increment}
      (mem : increment ∈ turnIncrements other (turnOf other entry))
      (counter : increment.counter = .wraparounds field direction) :
      (turnOf field entry).direction? = some direction := by
    obtain ⟨turned, settled, rfl⟩ := List.mem_map.mp mem
    cases counter
    apply Option.mem_toList.mp settled
  obtain ⟨increment, mem, counter⟩ := mem
  rw [counted_eq, List.mem_append, List.mem_append] at mem
  obtain (mem | mem) | mem := mem
  · apply own mem counter
  · apply own mem counter
  · obtain ⟨kind, -, rfl⟩ := List.mem_map.mp mem
    cases counter

theorem total_turnIncrements (other : Field) (turn : Turn) (field : Field) :
  Tally.total ⟨turnIncrements other turn⟩ (.wraparounds field .forward)
    = if other = field ∧ turn = .forward then 1 else 0
  := by cases other <;> cases turn <;> cases field <;> rfl

/-- A call counts one forward turn of a field if it settles the turn as one. -/
theorem total_forward_counted (entry : Timeline × Call) (field : Field) :
  Tally.total ⟨counted entry⟩ (.wraparounds field .forward)
    = if turnOf field entry = .forward then 1 else 0
  := by
  have steps : Tally.total ⟨stepIncrements (stepBack? entry)⟩ (.wraparounds field .forward) = 0 := by
    cases stepBack? entry <;> rfl
  rw [counted_eq, Tally.total_append, Tally.total_append, total_turnIncrements,
    total_turnIncrements, steps]
  cases field <;> simp

/-- A call counts one discontinuity if it steps back. -/
theorem total_steps_counted (entry : Timeline × Call) :
  Tally.total ⟨counted entry⟩ (.deltaDiscontinuities .wraparound)
      + Tally.total ⟨counted entry⟩ (.deltaDiscontinuities .sourceRestart)
    = if stepsBack entry then 1 else 0
  := by
  have turns (field : Field) (kind : Discontinuity) :
      Tally.total ⟨turnIncrements field (turnOf field entry)⟩ (.deltaDiscontinuities kind) = 0 := by
    cases turnOf field entry <;> rfl
  simp only [counted_eq, Tally.total_append, turns, ← isSome_stepBack?]
  cases stepBack? entry with
  | none => rfl
  | some kind => cases kind <;> rfl

/-- A call that steps back counts that and nothing else. -/
theorem counted_of_stepsBack {entry : Timeline × Call} (back : stepsBack entry) :
  ∃ kind, counted entry = [⟨.deltaDiscontinuities kind, 1⟩]
  := by
  rw [← isSome_stepBack?] at back
  obtain ⟨kind, taken⟩ := Option.isSome_iff_exists.mp back
  use kind
  rw [counted_eq, taken]
  obtain ⟨t, call⟩ := entry
  cases call with
  | rebase => cases taken
  | _ => rfl

/-! ### Turns that are kept -/

/-- A call adds the forward turn that it counts to the turns of all tracks, unless it forgets
them. -/
theorem sum_wraps_perform (keeps : ¬ forgetsTurns (t, call)) (field : Field) :
  ∑ᶠ id, (t.perform call).state.wraps field id
    = (∑ᶠ id, t.wraps field id) + if turnOf field (t, call) = .forward then 1 else 0
  := by
  cases call with
  | rebase track raw modulus =>
    change ∑ᶠ id, ((t.rebase track raw modulus).state.unwrapper field).count id = _
    rw [unwrapper_rebase]
    apply Unwrapper.sum_count_record
  | advance id raw modulus =>
    change ∑ᶠ id, (t.advance _ raw modulus).state.wraps field id = _
    rw [state_advance]
    cases field <;> rfl
  | increment id raw modulus =>
    change ∑ᶠ id, (t.increment _ raw modulus).state.wraps field id = _
    rw [state_increment]
    cases field <;> rfl
  | bridge tracks gap => cases field <;> rfl
  | close tracks =>
    rw [forgetsTurns] at keeps
    change ∑ᶠ id, ((t.close tracks).state.unwrapper field).count id = _
    rw [unwrapper_close, if_neg keeps]
    rfl

theorem sum_wraps_of_forgets (forgets : forgetsTurns (t, call)) (field : Field) :
  ∑ᶠ id, (t.perform call).state.wraps field id = 0
  := by
  cases call with
  | close tracks =>
    rw [forgetsTurns] at forgets
    change ∑ᶠ id, ((t.close tracks).state.unwrapper field).count id = _
    rw [unwrapper_close, if_pos forgets]
    apply finsum_zero
  | _ => cases forgets

/-- A late value leaves the unwrapper of its field as it is. -/
theorem unwrapper_of_reverse {entry : Timeline × Call} (late : turnOf field entry = .reverse) :
  (entry.1.perform entry.2).state.unwrapper field = entry.1.unwrapper field
  := by
  obtain ⟨t, call⟩ := entry
  cases call with
  | rebase track raw modulus =>
    apply (t.unwrapper_rebase track raw modulus field).trans
    rw [turnOf] at late
    rw [late]
    rfl
  | _ => cases late

/-! ### Runs -/

theorem increments_eq_counted (t : Timeline) (calls : List Call) :
  t.increments calls = (t.trace calls).flatMap counted
  := by
  rw [increments, run_eq_map_trace, List.flatMap_map]
  rfl

/-- The forward turns counted since turns were last forgotten are those that are kept, over all
tracks. -/
theorem total_forward_sinceForgotten (settings : Settings) (calls : List Call) (field : Field) :
  let t : Timeline := { settings }
  Tally.total ⟨(t.sinceForgotten calls).flatMap counted⟩ (.wraparounds field .forward)
    = ∑ᶠ id, (t.performAll calls).wraps field id
  := by
  intro t
  -- What was forgotten last decides, so the calls are taken from the end.
  induction calls using List.reverseRecOn with
  | nil =>
    have none (id : TrackId) : t.wraps field id = 0 := by cases field <;> rfl
    apply Eq.symm
    apply (finsum_congr none).trans
    apply finsum_zero
  | append_singleton calls call ih =>
    rw [performAll_concat, sinceForgotten, trace_concat]
    by_cases forgets : forgetsTurns (t.performAll calls, call)
    · rw [List.rtakeWhile_concat_neg _ _ _ (by simp [forgets]), sum_wraps_of_forgets forgets]
      rfl
    · rw [List.rtakeWhile_concat_pos _ _ _ (by simp [forgets]), List.flatMap_append,
        Tally.total_append, sum_wraps_perform forgets, ← ih, List.flatMap_singleton,
        total_forward_counted]
      rfl

/-- The discontinuities counted in a run are its steps back. -/
theorem total_steps (entries : List (Timeline × Call)) :
  Tally.total ⟨entries.flatMap counted⟩ (.deltaDiscontinuities .wraparound)
      + Tally.total ⟨entries.flatMap counted⟩ (.deltaDiscontinuities .sourceRestart)
    = entries.countP stepsBack
  := by
  induction entries with
  | nil => rfl
  | cons entry entries ih =>
    have first := total_steps_counted entry
    rw [List.flatMap_cons, Tally.total_append, Tally.total_append, List.countP_cons]
    omega

/-- Discontinuities are counted as they are kept.  In every run of a new timeline, the forward turns
of a field that are counted since turns were last forgotten come to the turns that the timeline
keeps of the field, over all tracks.  Decode timestamps are never counted as late, and a call that
counts a presentation timestamp as late leaves the unwrapper of presentation timestamps as it is.
The steps back that are counted, of both kinds, are the calls whose raw value lies below the last
one of its track, each counted under one kind and for nothing else.  All increments are by one. -/
theorem discontinuities_agree (settings : Settings) (calls : List Call) :
  let t : Timeline := { settings }
  (∀ increment ∈ t.increments calls, increment.amount = 1)
    ∧ (∀ field,
      Tally.total ⟨(t.sinceForgotten calls).flatMap counted⟩ (.wraparounds field .forward)
        = ∑ᶠ id, (t.performAll calls).wraps field id)
    ∧ (∀ increment ∈ t.increments calls, increment.counter ≠ .wraparounds .dts .reverse)
    ∧ (∀ entry ∈ t.trace calls,
      (∃ increment ∈ counted entry, increment.counter = .wraparounds .pts .reverse) →
        (entry.1.perform entry.2).state.unwrapper .pts = entry.1.unwrapper .pts)
    ∧ Tally.total ⟨t.increments calls⟩ (.deltaDiscontinuities .wraparound)
        + Tally.total ⟨t.increments calls⟩ (.deltaDiscontinuities .sourceRestart)
      = (t.trace calls).countP stepsBack
    ∧ ∀ entry ∈ t.trace calls, stepsBack entry →
      ∃ kind, counted entry = [⟨.deltaDiscontinuities kind, 1⟩]
  := by
  intro t
  have reversed {turn : Turn} (late : turn.direction? = some .reverse) : turn = .reverse := by
    cases turn with
    | reverse => rfl
    | _ => cases late
  rw [increments_eq_counted]
  refine ⟨?_, total_forward_sinceForgotten settings calls, ?_, ?_, total_steps _, ?_⟩
  · intro increment mem
    obtain ⟨entry, -, mem⟩ := List.mem_flatMap.mp mem
    apply amount_of_counted mem
  · intro increment mem counter
    obtain ⟨entry, -, mem⟩ := List.mem_flatMap.mp mem
    apply turnOf_dts_ne_reverse entry
    exact reversed (turnOf_of_counted ⟨increment, mem, counter⟩)
  · intro entry _ counts
    exact unwrapper_of_reverse (reversed (turnOf_of_counted counts))
  · intro entry _ back
    apply counted_of_stepsBack back

end Timeline

end MediaClock
