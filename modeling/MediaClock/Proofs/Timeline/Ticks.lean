import Mathlib.Algebra.BigOperators.Intervals
import Mathlib.Algebra.Order.BigOperators.Group.Finset
import Mathlib.Tactic.IntervalCases
import MediaClock.Proofs.Timeline.Integration

/-!
# The ticks of a source

The raw values that advance the running clock of a track come from a counter that shows the
true time of a source modulo `M`.  Let the true time never fall, and move on by less than `M`
from one value to the next.  Then the running clock moves on by what the true time does, but
for the steps over a multiple of `M` from a raw value that is not near the top: these are taken
for a restart of the source, and each of them is lost as a whole.  The value after it becomes
the last raw value all the same, so no tick is lost later on.
-/

namespace MediaClock

namespace Advancing

/-- That the clock does not saturate at a raw value. -/
def Unsaturated (a : Advancing) : Prop :=
  Saturating.Fits
    ((a.before.last? a.id).getD 0 + (a.before.increment a.id a.raw a.modulus).answer)

instance (a : Advancing) : Decidable a.Unsaturated := inferInstanceAs (Decidable (Saturating.Fits _))

/-- That a raw value meets the clock and the last raw value that another one leaves behind. -/
structure Follows (later a : Advancing) : Prop where
  clock : later.before.last? later.id = some a.clock
  raw : later.before.sources.get? later.id = some a.raw

/-- Without saturation, the clock moves on by the increment. -/
theorem Follows.clock_eq {later a : Advancing} (follows : later.Follows a)
    (exact : later.Unsaturated) :
  later.clock = a.clock + (later.before.increment later.id later.raw later.modulus).answer
  := by
  rw [Unsaturated, follows.clock, Option.getD_some] at exact
  rw [Advancing.clock, Timeline.advance, follows.clock, Option.getD_some, Saturating.add,
    Saturating.clamp_of_fits exact]

end Advancing

namespace Timeline

/-! ### Steps of the true time -/

/-- Whether a step of the true time is lost: it passes a multiple of the modulus, and the raw
value before it is not near the top. -/
def IsLost (M x y : Int) : Prop := x / M < y / M ∧ ¬ nearTop (x % M) M

instance (M x y : Int) : Decidable (IsLost M x y) := inferInstanceAs (Decidable (_ ∧ _))

variable {t : Timeline} {id : TrackId} {M x y : Int} {c : ℕ → Int} {j k : ℕ}

theorem answer_increment {last : Int} (seen : t.sources.get? id = some last) (raw modulus : Int) :
  (t.increment id raw modulus).answer
    = if last ≤ raw then Saturating.sub raw last
      else if nearTop last modulus then Saturating.add (Saturating.sub modulus last) raw
      else 0
  := by
  rw [increment, seen]
  simp only
  split
  · rfl
  · split <;> rfl

/-- The increment of a raw value is what the true time has moved on by, unless the step is lost. -/
theorem answer_increment_of_step (modulus : IsModulus M) (seen : t.sources.get? id = some (x % M))
    (le : x ≤ y) (lt : y - x < M) :
  (t.increment id (y % M) M).answer = if IsLost M x y then 0 else y - x
  := by
  have fits {n : Int} (low : 0 ≤ n) (high : n ≤ M) : Saturating.Fits n :=
    Saturating.fits_of_bounds (b := Saturating.highest) (by decide)
      ⟨low, high.trans modulus.le_highest⟩
  have periods := Int.ediv_le_ediv (lt_of_lt_of_le one_pos modulus.pos) le
  have := emod_bounds modulus.pos x
  have := emod_bounds modulus.pos y
  rw [answer_increment seen]
  -- The later time lies in the next period, where the raw value has fallen, or in the same one,
  -- where it has not.
  obtain ⟨next, shown⟩ | ⟨same, shown⟩ | ⟨-, shown⟩ | beyond := period_cases modulus.pos lt
  · rw [if_neg (by omega)]
    by_cases near : nearTop (x % M) M
    · have kept : ¬ IsLost M x y := fun lost => lost.2 near
      rw [if_pos near, if_neg kept, Saturating.sub, Saturating.clamp_of_fits (fits _ _),
        Saturating.add, Saturating.clamp_of_fits (fits _ _)]
      all_goals omega
    · have lost : IsLost M x y := ⟨by omega, near⟩
      rw [if_neg near, if_pos lost]
  · have kept : ¬ IsLost M x y := by
      rintro ⟨passed, -⟩
      omega
    rw [if_pos (by omega), if_neg kept, Saturating.sub, Saturating.clamp_of_fits (fits _ _)]
    all_goals omega
  · omega
  · omega

/-- A lost step takes ticks with it. -/
theorem IsLost.lt (pos : 1 ≤ M) (lost : IsLost M x y) :
  x < y
  := by
  apply lt_of_not_ge
  intro le
  have := Int.ediv_le_ediv (lt_of_lt_of_le one_pos pos) le
  obtain ⟨passed, -⟩ := lost
  omega

/-! ### Lost ticks -/

/-- The steps of a true time that are lost, of those from its `j`-th value up to its `k`-th. -/
def lostSteps (M : Int) (c : ℕ → Int) (j k : ℕ) : Finset ℕ :=
  {i ∈ Finset.Ico j k | IsLost M (c i) (c (i + 1))}

/-- The ticks that lost steps take with them. -/
def lostTicks (M : Int) (c : ℕ → Int) (j k : ℕ) : Int :=
  ∑ i ∈ lostSteps M c j k, (c (i + 1) - c i)

theorem mem_lostSteps {i : ℕ} :
  i ∈ lostSteps M c j k ↔ (j ≤ i ∧ i < k) ∧ IsLost M (c i) (c (i + 1))
  := by rw [lostSteps, Finset.mem_filter, Finset.mem_Ico]

theorem pos_of_mem_lostSteps (pos : 1 ≤ M) {i : ℕ} (mem : i ∈ lostSteps M c j k) :
  0 < c (i + 1) - c i
  := by
  have := (mem_lostSteps.mp mem).2.lt pos
  omega

theorem lostTicks_self (M : Int) (c : ℕ → Int) (j : ℕ) :
  lostTicks M c j j = 0
  := by
  rw [lostTicks, lostSteps, Finset.Ico_self]
  rfl

theorem lostTicks_succ (le : j ≤ k) :
  lostTicks M c j (k + 1)
    = lostTicks M c j k + if IsLost M (c k) (c (k + 1)) then c (k + 1) - c k else 0
  := by
  rw [lostTicks, lostSteps, Finset.sum_filter, Finset.sum_Ico_succ_top le, ← Finset.sum_filter,
    lostTicks, lostSteps]

theorem lostTicks_nonneg (pos : 1 ≤ M) (c : ℕ → Int) (j k : ℕ) :
  0 ≤ lostTicks M c j k
  := by
  apply Finset.sum_nonneg
  intro i mem
  apply (pos_of_mem_lostSteps pos mem).le

/-- No more ticks are lost than the true time moves on by. -/
theorem lostTicks_le (le : j ≤ k) (rise : ∀ i < k, c i ≤ c (i + 1)) :
  lostTicks M c j k ≤ c k - c j
  := by
  induction k, le using Nat.le_induction with
  | base =>
    rw [lostTicks_self]
    omega
  | succ k le ih =>
    have before := ih fun i lt => rise i (Nat.lt_succ_of_lt lt)
    have step := rise k (Nat.lt_succ_self k)
    rw [lostTicks_succ le]
    split <;> omega

/-- No ticks are lost exactly if no step is. -/
theorem lostTicks_eq_zero_iff (pos : 1 ≤ M) :
  lostTicks M c j k = 0 ↔ ∀ i, j ≤ i → i < k → ¬ IsLost M (c i) (c (i + 1))
  := by
  rw [lostTicks, Finset.sum_eq_zero_iff_of_nonneg fun i mem => (pos_of_mem_lostSteps pos mem).le]
  constructor
  · intro zero i low high lost
    have mem := mem_lostSteps.mpr ⟨⟨low, high⟩, lost⟩
    apply (pos_of_mem_lostSteps pos mem).ne' (zero i mem)
  · intro kept i mem
    obtain ⟨⟨low, high⟩, lost⟩ := mem_lostSteps.mp mem
    apply absurd lost (kept i low high)

/-! ### Raw values in a row -/

/-- Whether a call, if it touches the running clock of a track, advances it. -/
def Call.LeavesClock (id : TrackId) : Call → Prop
  | .rebase track .. => track.id ≠ id
  | .increment other .. => other ≠ id
  | .advance .. | .bridge .. => True
  | .close .. => False

instance (id : TrackId) : DecidablePred (Call.LeavesClock id)
  | .rebase .. | .increment .. => inferInstanceAs (Decidable (_ ≠ _))
  | .advance .. | .bridge .. => isTrue trivial
  | .close .. => isFalse not_false

theorem advancings_cons (t : Timeline) (id : TrackId) (call : Call) (calls : List Call) :
  t.advancings id (call :: calls)
    = (advancing? id (t, call)).toList ++ (t.perform call).state.advancings id calls
  := MediaClock.filterMap_trace_cons _ _ _ _ _

/-- A call that does not advance the clock of a track leaves its clock and its last raw value. -/
theorem perform_of_leavesClock {call : Call} (leaves : call.LeavesClock id)
    (other : advancing? id (t, call) = none) :
  (t.perform call).state.last? id = t.last? id
    ∧ (t.perform call).state.sources.get? id = t.sources.get? id
  := by
  cases call with
  | rebase track raw modulus =>
    constructor
    · apply (t.last?_rebase track raw modulus id).trans (if_neg leaves)
    · rfl
  | advance track raw modulus =>
    have ne : track ≠ id := by
      rintro rfl
      rw [advancing?, if_pos rfl] at other
      cases other
    change (t.advance track raw modulus).state.last? id = _
      ∧ (t.advance track raw modulus).state.sources.get? id = _
    rw [state_advance]
    constructor
    · apply (TrackMap.get?_set _ _ _ _).trans (if_neg ne)
    · apply (TrackMap.get?_set _ _ _ _).trans (if_neg ne)
  | increment track raw modulus =>
    change (t.increment track raw modulus).state.last? id = _
      ∧ (t.increment track raw modulus).state.sources.get? id = _
    rw [state_increment]
    constructor
    · rfl
    · apply (TrackMap.get?_set _ _ _ _).trans (if_neg leaves)
  | bridge => exact ⟨rfl, rfl⟩
  | close => apply leaves.elim

/-- A call that advances the clock of a track leaves the clock value and the raw value behind. -/
theorem perform_of_advance (t : Timeline) (id : TrackId) (raw modulus : Int) :
  (t.perform (.advance id raw modulus)).state.last? id = some (Advancing.mk t id raw modulus).clock
    ∧ (t.perform (.advance id raw modulus)).state.sources.get? id = some raw
  := by
  change (t.advance id raw modulus).state.last? id = _
    ∧ (t.advance id raw modulus).state.sources.get? id = _
  rw [state_advance]
  constructor
  · apply (TrackMap.get?_set _ _ _ _).trans (if_pos rfl)
  · apply (TrackMap.get?_set _ _ _ _).trans (if_pos rfl)

/-- Each raw value that advances the clock of a track follows the one before it. -/
theorem isChain_advancings (t : Timeline) (id : TrackId) {calls : List Call}
    (leave : ∀ call ∈ calls, call.LeavesClock id) :
  (∀ a ∈ (t.advancings id calls).head?, a.id = id ∧ a.before.last? id = t.last? id
      ∧ a.before.sources.get? id = t.sources.get? id)
    ∧ (t.advancings id calls).IsChain fun a later => later.Follows a
  := by
  induction calls generalizing t with
  | nil =>
    constructor
    · rintro _ ⟨⟩
    · exact .nil
  | cons call calls ih =>
    obtain ⟨first, rest⟩ := List.forall_mem_cons.mp leave
    obtain ⟨head, chain⟩ := ih (t.perform call).state rest
    rw [advancings_cons]
    cases own : advancing? id (t, call) with
    | none =>
      obtain ⟨last, source⟩ := perform_of_leavesClock first own
      rw [last, source] at head
      exact ⟨head, chain⟩
    | some a =>
      obtain ⟨rfl, rfl, rfl⟩ := call_of_advancing? own
      obtain ⟨last, source⟩ := a.before.perform_of_advance a.id a.raw a.modulus
      rw [last, source] at head
      rw [Option.toList_some, List.singleton_append, List.isChain_cons]
      refine ⟨?_, ?_, chain⟩
      · rintro _ ⟨⟩
        exact ⟨rfl, rfl, rfl⟩
      · intro later mem
        obtain ⟨same, last, source⟩ := head later mem
        constructor
        · rw [same, last]
        · rw [same, source]

/-! ### Clock values -/

section Clocks

variable {calls : List Call} {a b : Advancing} (modulus : IsModulus M)
  (leave : ∀ call ∈ calls, call.LeavesClock id)
  (own : ∀ a ∈ t.advancings id calls, a.modulus = M)
  (raw : ∀ k a, (t.advancings id calls)[k]? = some a → a.raw = c k % M)
  (source : ∀ k, k + 1 < (t.advancings id calls).length → c k ≤ c (k + 1) ∧ c (k + 1) - c k < M)
  (exact : ∀ a ∈ t.advancings id calls, a.Unsaturated)

include modulus leave own raw source exact

/-- From one raw value to the next one, the clock moves on by what the true time does, unless
the step is lost. -/
theorem clock_consecutive (now : (t.advancings id calls)[k]? = some a)
    (next : (t.advancings id calls)[k + 1]? = some b) :
  b.clock = a.clock + if IsLost M (c k) (c (k + 1)) then 0 else c (k + 1) - c k
  := by
  obtain ⟨bound, same⟩ := List.getElem?_eq_some_iff.mp next
  obtain ⟨_, rfl⟩ := List.getElem?_eq_some_iff.mp now
  have follows := List.isChain_iff_getElem.mp (t.isChain_advancings id leave).2 k bound
  rw [same] at follows
  obtain ⟨le, lt⟩ := source k bound
  have seen := follows.raw
  rw [raw k _ now] at seen
  rw [follows.clock_eq (exact b (List.mem_of_getElem? next)), raw (k + 1) b next,
    own b (List.mem_of_getElem? next), answer_increment_of_step modulus seen le lt]

/-- From one raw value to a later one, the clock moves on by what the true time does, less the
ticks that are lost. -/
theorem clock_add_lostTicks (le : j ≤ k) (first : (t.advancings id calls)[j]? = some a)
    (last : (t.advancings id calls)[k]? = some b) :
  b.clock + lostTicks M c j k = a.clock + (c k - c j)
  := by
  induction k, le using Nat.le_induction generalizing b with
  | base =>
    rw [first] at last
    cases last
    rw [lostTicks_self]
    omega
  | succ k le ih =>
    obtain ⟨bound, -⟩ := List.getElem?_eq_some_iff.mp last
    have now := List.getElem?_eq_getElem (Nat.lt_of_succ_lt bound)
    have before := ih now
    have step := clock_consecutive modulus leave own raw source exact now last
    rw [lostTicks_succ le]
    split at step
    · rename_i lost
      rw [if_pos lost]
      omega
    · rename_i kept
      rw [if_neg kept]
      omega

end Clocks

/-- Let raw values advance the running clock of a track, and let them show the true time of a
source that never falls and moves on by less than the modulus.  Then from any of them to a later
one, whatever other tracks do in between, the clock moves on by what the true time does, less
the steps over a multiple of the modulus from a raw value that is not near the top.  So it never
moves back or further on than the true time, and it moves on as far exactly if there is no such
step. -/
theorem clock_accounts_for_ticks (t : Timeline) (id : TrackId) {M : Int} (modulus : IsModulus M)
    (calls : List Call) (leave : ∀ call ∈ calls, call.LeavesClock id)
    (own : ∀ a ∈ t.advancings id calls, a.modulus = M) (c : ℕ → Int)
    (raw : ∀ k a, (t.advancings id calls)[k]? = some a → a.raw = c k % M)
    (source : ∀ k, k + 1 < (t.advancings id calls).length →
      c k ≤ c (k + 1) ∧ c (k + 1) - c k < M)
    (exact : ∀ a ∈ t.advancings id calls, a.Unsaturated) (j k : ℕ) (le : j ≤ k)
    (a b : Advancing) (first : (t.advancings id calls)[j]? = some a)
    (last : (t.advancings id calls)[k]? = some b) :
  b.clock - a.clock = c k - c j - lostTicks M c j k
    ∧ a.clock ≤ b.clock
    ∧ b.clock - a.clock ≤ c k - c j
    ∧ (b.clock - a.clock = c k - c j
      ↔ ∀ i, j ≤ i → i < k → c i / M < c (i + 1) / M → nearTop (c i % M) M)
  := by
  have moved := clock_add_lostTicks modulus leave own raw source exact le first last
  have nonneg := lostTicks_nonneg modulus.pos c j k
  obtain ⟨bound, -⟩ := List.getElem?_eq_some_iff.mp last
  have atMost : lostTicks M c j k ≤ c k - c j :=
    lostTicks_le le fun i lt => (source i (by omega)).1
  have kept : b.clock - a.clock = c k - c j ↔ lostTicks M c j k = 0 := by omega
  constructor
  · omega
  constructor
  · omega
  constructor
  · omega
  · rw [kept, lostTicks_eq_zero_iff modulus.pos]
    simp only [IsLost, not_and, not_not]

/-- The true time of a source whose counter wraps twice, the first time from near the top. -/
def wrappingSource (k : ℕ) : Int := [99995, 100020, 199000, 200500, 200600].getD k 200600

/-- The running clock of a track with that source, next to another track. -/
def wrappingTrack : List Call := [
  .advance ⟨0⟩ 99995 100000,
  .advance ⟨0⟩ 20 100000,
  .rebase ⟨⟨1⟩, .audio, .rtmp⟩ ⟨5, 5⟩ 100,
  .advance ⟨0⟩ 99000 100000,
  .bridge ∅ 70,
  .increment ⟨1⟩ 3 100,
  .advance ⟨0⟩ 500 100000,
  .advance ⟨0⟩ 600 100000]

/-- Of the two wraps, the clock loses the step of the second one. -/
theorem clock_accounts_for_ticks_wrappingTrack :
  ∃ a b, (advancings {} ⟨0⟩ wrappingTrack)[0]? = some a
    ∧ (advancings {} ⟨0⟩ wrappingTrack)[4]? = some b
    ∧ b.clock - a.clock = 200600 - 99995 - (200500 - 199000)
  := by
  refine ⟨_, _, rfl, rfl, ?_⟩
  have lost : lostTicks 100000 wrappingSource 0 4 = 200500 - 199000 := by decide
  rw [← lost]
  apply (clock_accounts_for_ticks {} ⟨0⟩ (M := 100000) ⟨by decide, by decide⟩ wrappingTrack
    (by decide) (by decide) wrappingSource _ _ (by decide) 0 4 (by decide) _ _ rfl rfl).1
  · intro k a now
    have bound := (List.getElem?_eq_some_iff.mp now).1
    change k < 5 at bound
    interval_cases k <;> cases now <;> rfl
  · intro k bound
    change k + 1 < 5 at bound
    have bound : k < 4 := by omega
    interval_cases k <;> decide

end Timeline

end MediaClock
