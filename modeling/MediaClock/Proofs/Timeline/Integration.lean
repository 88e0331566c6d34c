import Mathlib.Data.List.Chain
import MediaClock.Proofs.Timeline.Runs

/-!
# Running clocks never run back

The increment of a raw value is never negative and never more than the modulus, whichever way
the test for a wraparound goes.  So the running clock of a track does not run back, in whatever
order its raw values come and whatever is called in between: closing an epoch forgets the last
raw value, from which the next increment would be taken, but the clock stands.

The test compares floating point numbers.  Nothing here depends on how it comes out, so a run is
looked at with any other test in its place.
-/

namespace MediaClock

/-- A raw value by whose increment the running clock of a track is advanced, together with the
timeline that it meets. -/
structure Advancing where
  before : Timeline
  id : TrackId
  raw : Int
  modulus : Int

/-- The clock value. -/
def Advancing.clock (a : Advancing) : Int := (a.before.advance a.id a.raw a.modulus).answer

namespace Timeline

/-- The raw value of a call that advances the clock of a track. -/
def advancing? (id : TrackId) : Timeline × Call → Option Advancing
  | (t, .advance other raw modulus) => if other = id then some ⟨t, other, raw, modulus⟩ else none
  | _ => none

/-- The raw values by which the clock of a track is advanced in a run, in order. -/
def advancings (t : Timeline) (id : TrackId) (calls : List Call) : List Advancing :=
  (t.trace calls).filterMap (advancing? id)

/-! ### Any test for a wraparound -/

/-- The increment of a raw value, with a test for a wraparound. -/
def incrementBy (near : Int → Int → Bool) (t : Timeline) (id : TrackId) (raw modulus : Int) : Int :=
  match t.sources.get? id with
  | none => 0
  | some last =>
    if last ≤ raw then Saturating.sub raw last
    else if near last modulus then Saturating.add (Saturating.sub modulus last) raw
    else 0

/-- The running clock advanced by the increment of a raw value, with a test for a wraparound. -/
def clockBy (near : Int → Int → Bool) (t : Timeline) (id : TrackId) (raw modulus : Int) : Int :=
  Saturating.add ((t.last? id).getD 0) (t.incrementBy near id raw modulus)

/-- The timeline after a call, with a test for a wraparound. -/
def nextBy (near : Int → Int → Bool) (t : Timeline) : Call → Timeline
  | .advance id raw modulus =>
    { t with
      sources := t.sources.set id raw
      lasts := t.lasts.set id (t.clockBy near id raw modulus) }
  | call => (t.perform call).state

/-- The raw values by which the clock of a track is advanced in a run with a test for a
wraparound, in order. -/
def advancingsBy (near : Int → Int → Bool) (t : Timeline) (id : TrackId) (calls : List Call) :
    List Advancing :=
  (MediaClock.trace (nextBy near) t calls).filterMap (advancing? id)

/-- The clock values of a track in a run with a test for a wraparound. -/
def clocksBy (near : Int → Int → Bool) (t : Timeline) (id : TrackId) (calls : List Call) :
    List Int :=
  (t.advancingsBy near id calls).map fun a => a.before.clockBy near a.id a.raw a.modulus

variable {t : Timeline} {id : TrackId} {M : Int} {near : Int → Int → Bool} {last? : Option Int}

theorem answer_advance (t : Timeline) (id : TrackId) (raw modulus : Int) :
  (t.advance id raw modulus).answer = t.clockBy nearTop id raw modulus
  := by
  rw [advance, clockBy, increment, incrementBy]
  cases t.sources.get? id with
  | none => rfl
  | some last =>
    simp only
    split
    · rfl
    · split <;> rfl

/-- The test for a wraparound that a run has is `nearTop`. -/
theorem nextBy_nearTop :
  nextBy nearTop = fun t call => (t.perform call).state
  := by
  funext t call
  cases call with
  | advance id raw modulus =>
    change _ = (t.advance id raw modulus).state
    rw [state_advance, answer_advance]
    rfl
  | _ => rfl

theorem clocksBy_nearTop (t : Timeline) (id : TrackId) (calls : List Call) :
  t.clocksBy nearTop id calls = (t.advancings id calls).map Advancing.clock
  := by
  rw [clocksBy, advancingsBy, nextBy_nearTop]
  apply List.map_congr_left
  intro a _
  rw [Advancing.clock, answer_advance]

theorem call_of_advancing? {call : Call} {a : Advancing}
    (own : advancing? id (t, call) = some a) :
  a.before = t ∧ a.id = id ∧ call = .advance id a.raw a.modulus
  := by
  cases call with
  | advance other raw modulus =>
    obtain ⟨rfl, same⟩ := Option.ite_none_right_eq_some.mp own
    cases same
    exact ⟨rfl, rfl, rfl⟩
  | _ => cases own

theorem advancingsBy_cons (near : Int → Int → Bool) (t : Timeline) (id : TrackId) (call : Call)
    (calls : List Call) :
  t.advancingsBy near id (call :: calls)
    = (advancing? id (t, call)).toList ++ (t.nextBy near call).advancingsBy near id calls
  := MediaClock.filterMap_trace_cons _ _ _ _ _

/-! ### Increments -/

/-- An increment is never negative and never more than the modulus. -/
theorem incrementBy_bounds (near : Int → Int → Bool) {raw : Int} (bounds : 0 ≤ raw ∧ raw ≤ M)
    (baseline : ∀ last ∈ t.sources.get? id, 0 ≤ last ∧ last ≤ M) :
  0 ≤ t.incrementBy near id raw M ∧ t.incrementBy near id raw M ≤ M
  := by
  rw [incrementBy]
  cases known : t.sources.get? id with
  | none =>
    simp only
    omega
  | some last =>
    have := baseline last known
    simp only
    split
    · have := Saturating.clamp_bounds_of_nonneg (n := raw - last) (by omega)
      rw [Saturating.sub]
      omega
    · split
      · have rest := Saturating.clamp_bounds_of_nonneg (n := M - last) (by omega)
        have := Saturating.clamp_bounds_of_nonneg (n := Saturating.clamp (M - last) + raw) (by omega)
        rw [Saturating.add, Saturating.sub]
        omega
      · omega

/-- The first raw value has no increment. -/
theorem clockBy_of_fresh {raw : Int} (silent : t.last? id = none)
    (fresh : t.sources.get? id = none) :
  t.clockBy near id raw M = 0
  := by
  rw [clockBy, silent, incrementBy, fresh]
  rfl

/-! ### Clocks -/

/-- Whether a call, if it is for a given track, takes the increment of a raw value between zero
and a given modulus. -/
def Call.Integrates (id : TrackId) (M : Int) : Call → Prop
  | .rebase track .. => track.id ≠ id
  | .advance other raw modulus | .increment other raw modulus =>
    other = id → modulus = M ∧ 0 ≤ raw ∧ raw ≤ M
  | .bridge .. | .close .. => True

instance (id : TrackId) (M : Int) : DecidablePred (Call.Integrates id M)
  | .rebase .. => inferInstanceAs (Decidable (_ ≠ _))
  | .advance .. | .increment .. => inferInstanceAs (Decidable (_ → _))
  | .bridge .. | .close .. => isTrue trivial

/-- That a timeline keeps the running clock of a track with raw values between zero and a
modulus. -/
structure Accumulates (t : Timeline) (id : TrackId) (M : Int) (last? : Option Int) : Prop where
  clock : t.last? id = last?
  fits : ∀ clock ∈ last?, Saturating.Fits clock
  baseline : ∀ raw ∈ t.sources.get? id, 0 ≤ raw ∧ raw ≤ M

variable {call : Call}

/-- A call that does not advance the clock of a track leaves it as it is. -/
theorem Accumulates.of_other (keeps : Accumulates t id M last?) (integrates : call.Integrates id M)
    (other : advancing? id (t, call) = none) :
  Accumulates (t.nextBy near call) id M last?
  := by
  obtain ⟨clock, fits, baseline⟩ := keeps
  cases call with
  | rebase track raw modulus =>
    constructor
    · exact ((t.last?_rebase track raw modulus id).trans (if_neg integrates)).trans clock
    · exact fits
    · exact baseline
  | advance track raw modulus =>
    have ne : track ≠ id := by
      rintro rfl
      rw [advancing?, if_pos rfl] at other
      cases other
    constructor
    · change (t.lasts.set track _).get? id = _
      rw [TrackMap.get?_set, if_neg ne]
      exact clock
    · exact fits
    · change ∀ raw ∈ (t.sources.set track _).get? id, _
      rw [TrackMap.get?_set, if_neg ne]
      exact baseline
  | increment track raw modulus =>
    change Accumulates (t.increment track raw modulus).state id M last?
    rw [state_increment]
    constructor
    · exact clock
    · exact fits
    · change ∀ raw ∈ (t.sources.set track _).get? id, _
      rw [TrackMap.get?_set]
      split
      · rename_i own
        rintro _ ⟨⟩
        exact (integrates own).2
      · exact baseline
  | bridge => exact ⟨clock, fits, baseline⟩
  | close => exact ⟨clock, fits, nofun⟩

/-- Advancing the clock of a track moves it on by no more than the modulus. -/
theorem Accumulates.advance (keeps : Accumulates t id M last?) {raw : Int}
    (bounds : 0 ≤ raw ∧ raw ≤ M) :
  Accumulates (t.nextBy near (.advance id raw M)) id M (some (t.clockBy near id raw M))
    ∧ ∀ last ∈ last?, 0 ≤ t.clockBy near id raw M - last ∧ t.clockBy near id raw M - last ≤ M
  := by
  obtain ⟨clock, fits, baseline⟩ := keeps
  constructor
  · constructor
    · apply (TrackMap.get?_set _ _ _ _).trans (if_pos rfl)
    · rintro _ ⟨⟩
      apply Saturating.fits_clamp
    · change ∀ other ∈ (t.sources.set id raw).get? id, _
      rw [TrackMap.get?_set, if_pos rfl]
      rintro _ ⟨⟩
      exact bounds
  · rintro last ⟨⟩
    have := incrementBy_bounds near bounds baseline
    have fits := fits last rfl
    rw [clockBy, clock, Option.getD_some, Saturating.add]
    simp only [Saturating.Fits, Saturating.clamp, Saturating.lowest, Saturating.highest] at *
    omega

/-- The clock of a track goes on from its last value, and never moves back or further on than the
modulus. -/
theorem Accumulates.isChain_clocksBy (keeps : Accumulates t id M last?)
    (near : Int → Int → Bool) {calls : List Call}
    (integrate : ∀ call ∈ calls, call.Integrates id M) :
  (last?.toList ++ t.clocksBy near id calls).IsChain
      (fun clock later => 0 ≤ later - clock ∧ later - clock ≤ M)
    ∧ ∀ a ∈ (t.advancingsBy near id calls).head?, a.id = id ∧ a.before.last? id = last?
  := by
  induction calls generalizing t last? with
  | nil =>
    constructor
    · cases last? with
      | none => exact .nil
      | some last => exact .singleton last
    · rintro _ ⟨⟩
  | cons call calls ih =>
    obtain ⟨first, rest⟩ := List.forall_mem_cons.mp integrate
    rw [clocksBy, advancingsBy_cons]
    cases own : advancing? id (t, call) with
    | none => apply ih (keeps.of_other first own) rest
    | some a =>
      obtain ⟨rfl, rfl, rfl⟩ := call_of_advancing? own
      obtain ⟨rfl, bounds⟩ := first rfl
      obtain ⟨onward, jump⟩ := keeps.advance bounds
      obtain ⟨chain, -⟩ := ih onward rest
      constructor
      · cases last? with
        | none => apply chain
        | some last => exact .cons_cons (jump last rfl) chain
      · rintro _ ⟨⟩
        exact ⟨rfl, keeps.clock⟩

/-- In any run of a new timeline that advances the clock of a track from raw values between zero
and a modulus, the clock never runs back and never moves on by more than the modulus, and it
starts at zero if its first raw value has no increment.  This is so with any test for a
wraparound, and so with the one that the timeline has. -/
theorem clocks_never_fall (settings : Settings) (id : TrackId) (M : Int) (calls : List Call)
    (integrate : ∀ call ∈ calls, call.Integrates id M) :
  clocksBy nearTop { settings } id calls = (advancings { settings } id calls).map Advancing.clock
    ∧ ∀ near : Int → Int → Bool,
      (clocksBy near { settings } id calls).Pairwise (· ≤ ·)
      ∧ (clocksBy near { settings } id calls).IsChain
        (fun clock later => 0 ≤ later - clock ∧ later - clock ≤ M)
      ∧ ∀ a ∈ (advancingsBy near { settings } id calls).head?,
        a.before.sources.get? id = none → (clocksBy near { settings } id calls).head? = some 0
  := by
  constructor
  · apply clocksBy_nearTop
  · intro near
    have keeps : Accumulates { settings } id M none := ⟨rfl, nofun, nofun⟩
    obtain ⟨chain, first⟩ := keeps.isChain_clocksBy near integrate
    constructor
    · apply List.isChain_iff_pairwise.mp
      apply List.IsChain.imp _ chain
      rintro clock later ⟨rise, -⟩
      omega
    constructor
    · apply chain
    · intro a head fresh
      obtain ⟨rfl, silent⟩ := first a head
      rw [clocksBy, List.head?_map, head, Option.map_some, clockBy_of_fresh silent fresh]

/-- A track whose source jitters, wraps and starts again, with an epoch closed in between. -/
def restlessSource : List Call := [
  .advance ⟨0⟩ 400 1000,
  .advance ⟨0⟩ 1000 1000,
  .advance ⟨0⟩ 30 1000,
  .increment ⟨0⟩ 20 1000,
  .advance ⟨0⟩ 50 1000,
  .rebase ⟨⟨1⟩, .audio, .rtmp⟩ ⟨5, 5⟩ 100,
  .close ∅,
  .advance ⟨0⟩ 700 1000,
  .advance ⟨0⟩ 690 1000,
  .advance ⟨0⟩ 720 1000]

example : (advancings {} ⟨0⟩ restlessSource).map Advancing.clock
    = [0, 600, 630, 660, 660, 660, 690]
  := by decide

theorem clocks_never_fall_restlessSource :
  ((advancings {} ⟨0⟩ restlessSource).map Advancing.clock).Pairwise (· ≤ ·)
    ∧ ((advancings {} ⟨0⟩ restlessSource).map Advancing.clock).head? = some 0
  := by
  obtain ⟨same, rise⟩ := clocks_never_fall {} ⟨0⟩ 1000 restlessSource (by decide)
  obtain ⟨rise, -, first⟩ := rise nearTop
  rw [← same]
  exact ⟨rise, first _ rfl rfl⟩

end Timeline

end MediaClock
