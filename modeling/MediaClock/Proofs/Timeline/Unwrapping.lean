import Mathlib.Order.Bounds.Basic
import Mathlib.Tactic.IntervalCases
import MediaClock.Proofs.Timeline.Runs

/-!
# Unwrapping is exact

The raw values of a track come from a counter that shows its true times modulo `M`.  Within
an epoch, whatever other tracks do in between, the emitted times of the track differ by what
its true times differ by, and its recorded turns are the periods that the true times have
moved on.  This holds of decode times that never fall and advance by less than the rest of
the half range, and of presentation times in any order that stay as close to their
reference, the last one from the latest period so far.
-/

namespace MediaClock.Timeline

variable {t : Timeline} {id : TrackId} {timebase : Timebase} {M : Int} {calls : List Call}

/-! ### Any field -/

/-- True times `x` of one field of a track, with the true times `origin` that their raw values
are compared with, such that the half range test tells every period. -/
structure Told (field : Field) (M q : Int) (count : ℕ) (x origin : ℕ → Int) : Prop where
  first : origin 0 = x 0
  next : ∀ k, k + 1 < count → origin (k + 1) = field.originAfter M (origin k) (x (k + 1))
  follows : ∀ k, k + 1 < count → field.Follows M q (origin k) (x (k + 1))
  tells : ∀ k, k + 1 < count → field.Tells M q (origin k) (x (k + 1))

/-- The odometer of a track that is told all periods moves every packet by the periods of its
true time, and reads the origin after it. -/
theorem reads_of_told (field : Field) (modulus : IsModulus M)
    (keeps : ∀ call ∈ calls, call.keepsEpoch)
    (own : ∀ r ∈ t.rebasingsOf id calls, r.modulus = M)
    (fresh : (t.odometer field id).origin? = none) {x origin : ℕ → Int}
    (raw : ∀ k r, (t.rebasingsOf id calls)[k]? = some r → r.raw.get field = x k % M)
    (told : Told field M (x 0 / M - t.wraps field id) (t.rebasingsOf id calls).length x origin)
    {k : ℕ} {r : Rebasing} (now : (t.rebasingsOf id calls)[k]? = some r) :
  (r.periods field : Int) = x k / M - (x 0 / M - t.wraps field id)
    ∧ (r.after.odometer field id).Reads M (x 0 / M - t.wraps field id) (origin k)
  := by
  have after := r.odometer_after field
  rw [id_of_mem_rebasingsOf (List.mem_of_getElem? now), own r (List.mem_of_getElem? now),
    raw k r now] at after
  rw [Rebasing.periods, own r (List.mem_of_getElem? now), raw k r now, after]
  induction k generalizing r with
  | zero =>
    have first := odometer_first keeps now field
    rw [← first] at fresh
    constructor
    · rw [Odometer.periods_of_origin_none fresh, first, turns_odometer]
      omega
    · rw [← turns_odometer, ← first, told.first]
      apply Odometer.reads_next_of_origin_none fresh
  | succ k ih =>
    obtain ⟨bound, -⟩ := List.getElem?_eq_some_iff.mp now
    obtain ⟨last, before⟩ : ∃ last, (t.rebasingsOf id calls)[k]? = some last :=
      ⟨_, List.getElem?_eq_getElem (Nat.lt_of_succ_lt bound)⟩
    have onward := odometer_consecutive keeps before now field
    rw [own _ (List.mem_of_getElem? before), raw k last before] at onward
    have left := last.odometer_after field
    rw [id_of_mem_rebasingsOf (List.mem_of_getElem? before),
      own _ (List.mem_of_getElem? before), raw k last before] at left
    obtain ⟨-, reads⟩ := ih before left
    rw [← onward] at reads
    constructor
    · apply (reads.periods_eq_iff modulus (told.follows k bound)).mpr (told.tells k bound)
    · rw [told.next k bound]
      apply reads.next modulus (told.follows k bound) (told.tells k bound)

/-- The emitted times of a track that is told all periods differ by what the true times
differ by. -/
theorem emitted_of_told (field : Field) (modulus : IsModulus M)
    (keeps : ∀ call ∈ calls, call.keepsEpoch)
    (own : ∀ r ∈ t.rebasingsOf id calls, r.track.timebase = timebase ∧ r.modulus = M)
    (fresh : (t.odometer field id).origin? = none) {x origin : ℕ → Int}
    (raw : ∀ k r, (t.rebasingsOf id calls)[k]? = some r → r.raw.get field = x k % M)
    (told : Told field M (x 0 / M - t.wraps field id) (t.rebasingsOf id calls).length x origin)
    (exact : ∀ r ∈ t.rebasingsOf id calls, r.Unsaturated field) {k : ℕ} {r first : Rebasing}
    (now : (t.rebasingsOf id calls)[k]? = some r)
    (start : (t.rebasingsOf id calls)[0]? = some first) :
  r.emitted.get field - first.emitted.get field = x k - x 0
  := by
  have moduli : ∀ r ∈ t.rebasingsOf id calls, r.modulus = M := fun r mem => (own r mem).2
  have emitted {k : ℕ} {r : Rebasing} (now : (t.rebasingsOf id calls)[k]? = some r) :
      r.emitted.get field = r.offset + x k - (x 0 / M - t.wraps field id) * M := by
    have mem := List.mem_of_getElem? now
    obtain ⟨periods, -⟩ := reads_of_told field modulus keeps moduli fresh raw told now
    rw [← moduli r mem] at periods ⊢
    apply (exact r mem).get_emitted_of_true _ periods
    rw [moduli r mem, raw k r now]
  rw [emitted now, emitted start,
    offset_eq_first keeps (fun r mem => (own r mem).1) now start]
  omega

/-! ### Decode times -/

/-- Decode times that never fall and advance by less than the rest of the half range are
told, each one from the one before it. -/
theorem told_dts (pos : 1 ≤ M) (q : Int) {count : ℕ} {d : ℕ → Int}
    (clock : ∀ k, k + 1 < count → d k ≤ d (k + 1) ∧ d (k + 1) - d k < M - M / 2) :
  Told .dts M q count d d
  where
  first := rfl
  next _ _ := rfl
  follows k bound := (clock k bound).1
  tells k bound := Field.tells_dts_of_near pos q (clock k bound).1 (clock k bound).2

/-- Within an epoch, the emitted decode times of a track differ by what its true times differ
by, and its turns are the periods that they have moved on, over any number of periods and
whatever other tracks do in between. -/
theorem dts_exact (t : Timeline) (id : TrackId) (timebase : Timebase) {M : Int}
    (modulus : IsModulus M) (calls : List Call) (keeps : ∀ call ∈ calls, call.keepsEpoch)
    (own : ∀ r ∈ t.rebasingsOf id calls, r.track.timebase = timebase ∧ r.modulus = M)
    (fresh : t.dts.origins.get? id = none) (d : ℕ → Int)
    (raw : ∀ k r, (t.rebasingsOf id calls)[k]? = some r → r.raw.dts = d k % M)
    (clock : ∀ k, k + 1 < (t.rebasingsOf id calls).length →
      d k ≤ d (k + 1) ∧ d (k + 1) - d k < M - M / 2)
    (exact : ∀ r ∈ t.rebasingsOf id calls, r.Unsaturated .dts) (k : ℕ) (r first : Rebasing)
    (now : (t.rebasingsOf id calls)[k]? = some r)
    (start : (t.rebasingsOf id calls)[0]? = some first) :
  r.emitted.dts - first.emitted.dts = d k - d 0
    ∧ (r.after.wraps .dts id : Int) - t.wraps .dts id = d k / M - d 0 / M
  := by
  have told := told_dts modulus.pos (d 0 / M - t.wraps .dts id) clock
  constructor
  · apply emitted_of_told .dts modulus keeps own fresh raw told exact now start
  · obtain ⟨-, reads⟩ := reads_of_told .dts modulus keeps (fun r mem => (own r mem).2)
      fresh raw told now
    have turns := reads.turns
    rw [turns_odometer] at turns
    omega

/-- Two tracks in turn, the first of which passes the end of its counter twice. -/
def twoTurns : List Call := [
  .rebase ⟨⟨0⟩, .video, .rtmp⟩ ⟨900, 900⟩ 1000,
  .rebase ⟨⟨1⟩, .audio, .mpegTs⟩ ⟨40, 20⟩ 1000,
  .rebase ⟨⟨0⟩, .video, .rtmp⟩ ⟨300, 300⟩ 1000,
  .advance ⟨1⟩ 60 1000,
  .rebase ⟨⟨0⟩, .video, .rtmp⟩ ⟨700, 700⟩ 1000,
  .rebase ⟨⟨0⟩, .video, .rtmp⟩ ⟨100, 100⟩ 1000]

/-- The four packets of the first track come at 900, 1300, 1700 and 2100. -/
theorem dts_exact_twoTurns :
  ∃ first r, (rebasingsOf {} ⟨0⟩ twoTurns)[0]? = some first
    ∧ (rebasingsOf {} ⟨0⟩ twoTurns)[3]? = some r
    ∧ r.emitted.dts - first.emitted.dts = 2100 - 900
    ∧ (r.after.wraps .dts ⟨0⟩ : Int) - wraps {} .dts ⟨0⟩ = 2100 / 1000 - 900 / 1000
  := by
  refine ⟨_, _, rfl, rfl, ?_⟩
  apply dts_exact {} ⟨0⟩ .rtmp (M := 1000) ⟨by decide, by decide⟩ twoTurns (by decide)
    (by decide) rfl (fun k => 900 + 400 * k) _ _ (by decide) 3 _ _ rfl rfl
  · intro k r now
    have bound := (List.getElem?_eq_some_iff.mp now).1
    change k < 4 at bound
    interval_cases k <;> cases now <;> rfl
  · intro k _
    constructor
    · push_cast
      omega
    · push_cast
      omega

/-! ### Presentation times -/

/-- Whether packet `j` is the reference of packet `k`: the last one from the latest period
among the packets before `k`. -/
structure IsReference (M : Int) (p : ℕ → Int) (k j : ℕ) : Prop where
  before : j < k
  latest : ∀ i < k, p i / M ≤ p j / M
  last : ∀ i, j < i → i < k → p i / M < p j / M

/-- The time of the reference of the packet after `k`. -/
def referenceTime (M : Int) (p : ℕ → Int) : ℕ → Int
  | 0 => p 0
  | k + 1 =>
    if p (k + 1) / M < referenceTime M p k / M then referenceTime M p k else p (k + 1)

theorem exists_isReference (M : Int) (p : ℕ → Int) (k : ℕ) :
  ∃ j, IsReference M p (k + 1) j ∧ referenceTime M p k = p j
  := by
  induction k with
  | zero =>
    use 0
    constructor
    · constructor
      · omega
      · intro i bound
        obtain rfl : i = 0 := by omega
        rfl
      · omega
    · rfl
  | succ k ih =>
    obtain ⟨j, reference, time⟩ := ih
    rw [referenceTime, time]
    split
    · rename_i late
      use j
      constructor
      · constructor
        · have := reference.before
          omega
        · intro i bound
          obtain rfl | lt : i = k + 1 ∨ i < k + 1 := by omega
          · apply late.le
          · apply reference.latest i lt
        · intro i after bound
          obtain rfl | lt : i = k + 1 ∨ i < k + 1 := by omega
          · apply late
          · apply reference.last i after lt
      · rfl
    · rename_i onTime
      use k + 1
      constructor
      · constructor
        · omega
        · intro i bound
          obtain rfl | lt : i = k + 1 ∨ i < k + 1 := by omega
          · rfl
          · have := reference.latest i lt
            omega
        · omega
      · rfl

/-- Presentation times that are closer to their reference than the rest of the half range,
and not from before the period of the first one, are told. -/
theorem told_pts (pos : 1 ≤ M) {q : Int} {count : ℕ} {p : ℕ → Int} (floor : q ≤ p 0 / M)
    (later : ∀ k < count, p 0 / M ≤ p k / M)
    (near : ∀ k j, k < count → IsReference M p k j → |p k - p j| < M - M / 2) :
  Told .pts M q count p (referenceTime M p)
  := by
  have close (k : ℕ) (bound : k + 1 < count) :
      |p (k + 1) - referenceTime M p k| < M - M / 2 := by
    obtain ⟨j, reference, time⟩ := exists_isReference M p k
    rw [time]
    apply near (k + 1) j bound reference
  constructor
  · rfl
  · intro k bound
    rw [Field.originAfter_pts_of_near pos (close k bound), referenceTime]
  · intro k bound
    constructor
    · apply floor.trans (later (k + 1) bound)
    · obtain ⟨low, -⟩ := abs_lt.mp (close k bound)
      omega
  · intro k bound
    apply Field.tells_pts_of_near pos q (close k bound)

/-- The time of the reference lies in the latest period so far. -/
theorem isGreatest_referenceTime (M : Int) (p : ℕ → Int) (k : ℕ) :
  IsGreatest {period | ∃ i ≤ k, p i / M = period} (referenceTime M p k / M)
  := by
  obtain ⟨j, reference, time⟩ := exists_isReference M p k
  rw [time]
  constructor
  · use j, Nat.le_of_lt_succ reference.before
  · rintro _ ⟨i, bound, rfl⟩
    apply reference.latest i (Nat.lt_succ_of_le bound)

/-- Within an epoch, the emitted presentation times of a track differ by what its true times
differ by, in whatever order they come, and its turns never fall: they have grown by the
periods up to the latest one so far. -/
theorem pts_exact (t : Timeline) (id : TrackId) (timebase : Timebase) {M : Int}
    (modulus : IsModulus M) (calls : List Call) (keeps : ∀ call ∈ calls, call.keepsEpoch)
    (own : ∀ r ∈ t.rebasingsOf id calls, r.track.timebase = timebase ∧ r.modulus = M)
    (fresh : t.pts.origins.get? id = none) (p : ℕ → Int)
    (raw : ∀ k r, (t.rebasingsOf id calls)[k]? = some r → r.raw.pts = p k % M)
    (near : ∀ k j, k < (t.rebasingsOf id calls).length → IsReference M p k j →
      |p k - p j| < M - M / 2)
    (later : ∀ k < (t.rebasingsOf id calls).length, p 0 / M ≤ p k / M)
    (exact : ∀ r ∈ t.rebasingsOf id calls, r.Unsaturated .pts) (k : ℕ) (r first : Rebasing)
    (now : (t.rebasingsOf id calls)[k]? = some r)
    (start : (t.rebasingsOf id calls)[0]? = some first) :
  r.emitted.pts - first.emitted.pts = p k - p 0
    ∧ IsGreatest {period | ∃ i ≤ k, p i / M = period}
        ((r.after.wraps .pts id : Int) - t.wraps .pts id + p 0 / M)
    ∧ ∀ j earlier, j ≤ k → (t.rebasingsOf id calls)[j]? = some earlier →
        earlier.after.wraps .pts id ≤ r.after.wraps .pts id
  := by
  have floor : p 0 / M - t.wraps .pts id ≤ p 0 / M := by omega
  have told := told_pts modulus.pos floor later near
  have turns {k : ℕ} {r : Rebasing} (now : (t.rebasingsOf id calls)[k]? = some r) :
      (r.after.wraps .pts id : Int)
        = referenceTime M p k / M - (p 0 / M - t.wraps .pts id) := by
    obtain ⟨-, reads⟩ := reads_of_told .pts modulus keeps (fun r mem => (own r mem).2)
      fresh raw told now
    rw [← turns_odometer, reads.turns]
  constructor
  · apply emitted_of_told .pts modulus keeps own fresh raw told exact now start
  constructor
  · rw [turns now]
    convert isGreatest_referenceTime M p k using 1
    omega
  · intro j earlier le before
    obtain ⟨i, bound, period⟩ := (isGreatest_referenceTime M p j).1
    have latest := (isGreatest_referenceTime M p k).2 ⟨i, bound.trans le, period⟩
    have := turns before
    have := turns now
    omega

/-- A track whose packets come in another order than their presentation times, two of them
from before a turn that they come after. -/
def lateFrames : List Call := [
  .rebase ⟨⟨0⟩, .video, .rtmp⟩ ⟨900, 900⟩ 1000,
  .rebase ⟨⟨0⟩, .video, .rtmp⟩ ⟨150, 920⟩ 1000,
  .rebase ⟨⟨0⟩, .video, .rtmp⟩ ⟨980, 940⟩ 1000,
  .rebase ⟨⟨0⟩, .video, .rtmp⟩ ⟨300, 960⟩ 1000,
  .rebase ⟨⟨0⟩, .video, .rtmp⟩ ⟨990, 980⟩ 1000]

/-- The true times of the packets of `lateFrames`. -/
def lateFrameTime (k : ℕ) : Int := [900, 1150, 980, 1300, 990].getD k 990

/-- The last packet is from the period of the first one, and the turn is counted once. -/
theorem pts_exact_lateFrames :
  ∃ first r, (rebasingsOf {} ⟨0⟩ lateFrames)[0]? = some first
    ∧ (rebasingsOf {} ⟨0⟩ lateFrames)[4]? = some r
    ∧ r.emitted.pts - first.emitted.pts = 990 - 900
    ∧ (r.after.wraps .pts ⟨0⟩ : Int) - wraps {} .pts ⟨0⟩ + 900 / 1000 = 1
  := by
  have near : ∀ k < 5, ∀ j < 5, |lateFrameTime k - lateFrameTime j| < 500 := by decide
  refine ⟨_, _, rfl, rfl, ?_⟩
  obtain ⟨exact, greatest, -⟩ := pts_exact {} ⟨0⟩ .rtmp (M := 1000) ⟨by decide, by decide⟩
    lateFrames (by decide) (by decide) rfl lateFrameTime
    (by
      intro k r now
      have bound := (List.getElem?_eq_some_iff.mp now).1
      change k < 5 at bound
      interval_cases k <;> cases now <;> rfl)
    (fun k j bound reference => near k bound j (reference.before.trans bound))
    (by decide) (by decide) 4 _ _ rfl rfl
  constructor
  · apply exact
  · apply greatest.unique
    constructor
    · use 1
      decide
    · rintro _ ⟨i, bound, rfl⟩
      interval_cases i <;> decide

end MediaClock.Timeline
