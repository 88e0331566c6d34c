import Mathlib.Tactic.Ring
import MediaClock.Proofs.Timeline.Runs

/-!
# How far clock values jump

Nothing is assumed here of the raw values of a track but that they lie between zero and the
modulus.  Whatever order they come in, the half range test keeps a clock value within bounds:
it lies no more than half of the modulus before, and no more than the modulus after, the clock
value of the packet that its raw value is compared with.  This is the last packet of the track
that was not late.  Decode values are never late, so for them it is the packet before.
-/

namespace MediaClock

/-! ### The step of an odometer -/

namespace Odometer

variable {o : Odometer} {field : Field} {M raw : Int}

/-- A late raw value leaves the odometer as it is. -/
theorem next_of_reverse (late : o.turn field M raw = .reverse) :
  o.next field M raw = o
  := by
  rw [next, late]

/-- A raw value that is not late becomes the origin, and the periods that it is moved by
become the turns. -/
theorem next_of_ne_reverse (onTime : o.turn field M raw ≠ .reverse) :
  o.next field M raw = ⟨o.periods field M raw, some raw⟩
  := by
  rw [next, periods]
  cases turn : o.turn field M raw with
  | level => rfl
  | forward => rfl
  | reverse => exact absurd turn onTime

/-- A raw value is moved no further back from its origin than half of the modulus, and no
further on than the modulus. -/
theorem jump_bounds {origin : Int} (seen : o.origin? = some origin)
    (fits : M ≤ Saturating.highest) (originBounds : 0 ≤ origin ∧ origin ≤ M)
    (rawBounds : 0 ≤ raw ∧ raw ≤ M) (field : Field) :
  -(M / 2) ≤ raw + o.periods field M raw * M - (origin + o.turns * M)
    ∧ raw + o.periods field M raw * M - (origin + o.turns * M) ≤ M
  := by
  have onward (n : ℕ) : ((n + 1 : ℕ) : Int) * M = n * M + M := by
    push_cast
    ring
  rw [periods]
  obtain ⟨turn, forward⟩ | ⟨turn, -, reverse⟩ | ⟨turn, low, high⟩ :=
    o.turn_cases seen fits originBounds rawBounds field
  · simp only [turn, onward]
    omega
  · simp only [turn]
    -- Without a turn to take back, a late value stays where it is, above its origin.
    cases turns : o.turns with
    | zero => omega
    | succ n =>
      simp only [Nat.add_sub_cancel, onward]
      omega
  · simp only [turn]
    omega

end Odometer

/-! ### Late packets -/

namespace Rebasing

variable {r : Rebasing} {field : Field} {packets : List Rebasing}

/-- That a raw value of a packet is taken for one from before the last forward turn. -/
def IsLate (r : Rebasing) (field : Field) : Prop :=
  (r.odometer field).turn field r.modulus (r.raw.get field) = .reverse

instance (r : Rebasing) (field : Field) : Decidable (r.IsLate field) :=
  inferInstanceAs (Decidable (_ = _))

theorem not_isLate_dts (r : Rebasing) :
  ¬ r.IsLate .dts
  := by
  rw [IsLate, Odometer.turn]
  cases Turn.between r.modulus (r.odometer .dts).origin? (r.raw.get .dts) <;> decide

theorem not_isLate_of_origin_none (fresh : (r.odometer field).origin? = none) :
  ¬ r.IsLate field
  := by
  rw [IsLate, Odometer.turn, fresh]
  cases field <;> rintro ⟨⟩

/-- The last one of some packets that is not late. -/
def lastOnTime? (field : Field) (packets : List Rebasing) : Option Rebasing :=
  (packets.filter fun r => ¬ r.IsLate field).getLast?

theorem mem_of_lastOnTime? (last : lastOnTime? field packets = some r) :
  r ∈ packets
  := by
  apply List.mem_of_mem_filter
  apply List.mem_of_getLast? last

theorem lastOnTime?_concat_of_late (late : r.IsLate field) :
  lastOnTime? field (packets ++ [r]) = lastOnTime? field packets
  := by simp [lastOnTime?, late]

theorem lastOnTime?_concat_of_not_late (onTime : ¬ r.IsLate field) :
  lastOnTime? field (packets ++ [r]) = some r
  := by simp [lastOnTime?, onTime]

end Rebasing

/-! ### Packets of a track -/

namespace Timeline

open Rebasing

variable {t : Timeline} {id : TrackId} {calls : List Call} {k : ℕ} {r : Rebasing}

/-- After a packet, the odometer stands where the last packet on time has left it. -/
theorem odometer_after_lastOnTime (keeps : ∀ call ∈ calls, call.keepsEpoch) (field : Field)
    (fresh : (t.odometer field id).origin? = none) (now : (t.rebasingsOf id calls)[k]? = some r) :
  ∃ origin, lastOnTime? field ((t.rebasingsOf id calls).take (k + 1)) = some origin
    ∧ r.after.odometer field id = ⟨origin.periods field, some (origin.raw.get field)⟩
  := by
  induction k generalizing r with
  | zero =>
    have onTime : ¬ r.IsLate field := by
      apply not_isLate_of_origin_none
      rw [odometer_first keeps now, fresh]
    use r
    rw [List.take_add_one, now, Option.toList_some, lastOnTime?_concat_of_not_late onTime,
      ← id_of_mem_rebasingsOf (List.mem_of_getElem? now), r.odometer_after,
      Odometer.next_of_ne_reverse onTime]
    exact ⟨rfl, rfl⟩
  | succ k ih =>
    obtain ⟨bound, -⟩ := List.getElem?_eq_some_iff.mp now
    have before := List.getElem?_eq_getElem (Nat.lt_of_succ_lt bound)
    have after := r.odometer_after field
    rw [id_of_mem_rebasingsOf (List.mem_of_getElem? now)] at after
    rw [List.take_add_one, now, Option.toList_some, after]
    by_cases late : r.IsLate field
    · rw [lastOnTime?_concat_of_late late, Odometer.next_of_reverse late,
        odometer_eq_after keeps before now]
      apply ih before
    · use r
      rw [lastOnTime?_concat_of_not_late late, Odometer.next_of_ne_reverse late]
      exact ⟨rfl, rfl⟩

/-- A clock value of a track lies within bounds of the one of the last packet on time. -/
theorem jump_of_lastOnTime {M : Int} (fits : M ≤ Saturating.highest)
    (keeps : ∀ call ∈ calls, call.keepsEpoch) {timebase : Timebase} {field : Field}
    (own : ∀ r ∈ t.rebasingsOf id calls, r.track.timebase = timebase ∧ r.modulus = M)
    (bounds : ∀ r ∈ t.rebasingsOf id calls, 0 ≤ r.raw.get field ∧ r.raw.get field ≤ M)
    (fresh : (t.odometer field id).origin? = none)
    (exact : ∀ r ∈ t.rebasingsOf id calls, r.Unsaturated field) {later : Rebasing}
    (now : (t.rebasingsOf id calls)[k]? = some r)
    (next : (t.rebasingsOf id calls)[k + 1]? = some later) :
  ∃ origin, lastOnTime? field ((t.rebasingsOf id calls).take (k + 1)) = some origin
    ∧ -(M / 2) ≤ later.emitted.get field - origin.emitted.get field
    ∧ later.emitted.get field - origin.emitted.get field ≤ M
  := by
  obtain ⟨origin, last, stands⟩ := odometer_after_lastOnTime keeps field fresh now
  rw [← odometer_eq_after keeps now next] at stands
  use origin, last
  have mem : origin ∈ t.rebasingsOf id calls := by
    apply List.mem_of_mem_take
    apply mem_of_lastOnTime? last
  have memLater := List.mem_of_getElem? next
  have offset : later.offset = origin.offset :=
    offset_eq_of_mem keeps (fun r mem => (own r mem).1) mem memLater
  have jump := Odometer.jump_bounds (o := later.odometer field) (congrArg Odometer.origin? stands)
    fits (bounds origin mem) (bounds later memLater) field
  have turns : (later.odometer field).turns = origin.periods field := congrArg Odometer.turns stands
  rw [turns, ← (own later memLater).2] at jump
  have shown : later.emitted.get field - origin.emitted.get field
      = later.raw.get field + later.periods field * later.modulus
        - (origin.raw.get field + origin.periods field * later.modulus) := by
    rw [(exact later memLater).get_emitted, (exact origin mem).get_emitted, offset,
      (own origin mem).2, (own later memLater).2]
    ring
  rw [shown, ← (own later memLater).2]
  apply jump

/-- Whatever raw values come in, a decode time lies within bounds of the one before it, and a
presentation time within bounds of the last one that was not late. -/
theorem jumps_bounded (t : Timeline) (id : TrackId) (timebase : Timebase) {M : Int}
    (fits : M ≤ Saturating.highest) (calls : List Call)
    (keeps : ∀ call ∈ calls, call.keepsEpoch)
    (own : ∀ r ∈ t.rebasingsOf id calls, r.track.timebase = timebase ∧ r.modulus = M)
    (bounds : ∀ r ∈ t.rebasingsOf id calls, ∀ field, 0 ≤ r.raw.get field ∧ r.raw.get field ≤ M)
    (fresh : ∀ field, (t.odometer field id).origin? = none)
    (exact : ∀ r ∈ t.rebasingsOf id calls, ∀ field, r.Unsaturated field) (k : ℕ)
    (r later : Rebasing) (now : (t.rebasingsOf id calls)[k]? = some r)
    (next : (t.rebasingsOf id calls)[k + 1]? = some later) :
  (-(M / 2) ≤ later.emitted.dts - r.emitted.dts ∧ later.emitted.dts - r.emitted.dts ≤ M)
    ∧ ∃ onTime, lastOnTime? .pts ((t.rebasingsOf id calls).take (k + 1)) = some onTime
      ∧ -(M / 2) ≤ later.emitted.pts - onTime.emitted.pts
      ∧ later.emitted.pts - onTime.emitted.pts ≤ M
  := by
  have jump (field : Field) := jump_of_lastOnTime fits keeps own (fun r mem => bounds r mem field)
    (fresh field) (fun r mem => exact r mem field) now next
  constructor
  · obtain ⟨before, last, jump⟩ := jump .dts
    rw [List.take_add_one, now, Option.toList_some,
      lastOnTime?_concat_of_not_late r.not_isLate_dts] at last
    cases last
    apply jump
  · apply jump .pts

/-- A track whose raw values jump about, with a late presentation time before the first turn and
one after it. -/
def jumpy : List Call := [
  .rebase ⟨⟨0⟩, .video, .rtmp⟩ ⟨0, 0⟩ 9,
  .rebase ⟨⟨0⟩, .video, .rtmp⟩ ⟨9, 9⟩ 9,
  .advance ⟨1⟩ 5 9,
  .rebase ⟨⟨0⟩, .video, .rtmp⟩ ⟨4, 5⟩ 9,
  .rebase ⟨⟨1⟩, .audio, .mpegTs⟩ ⟨7, 2⟩ 9,
  .rebase ⟨⟨0⟩, .video, .rtmp⟩ ⟨8, 1⟩ 9,
  .rebase ⟨⟨0⟩, .video, .rtmp⟩ ⟨0, 0⟩ 9,
  .rebase ⟨⟨0⟩, .video, .rtmp⟩ ⟨5, 8⟩ 9]

example : (rebasingsOf {} ⟨0⟩ jumpy).map (fun r => (r.emitted.dts, r.emitted.pts))
    = [(0, 0), (9, 9), (5, 4), (1, 8), (0, 9), (8, 5)]
  := by decide

/-- The last packet is late, so its presentation time is compared with the one before it, and
it is moved back by the only turn. -/
theorem jumps_bounded_jumpy :
  ∃ r later, (rebasingsOf {} ⟨0⟩ jumpy)[4]? = some r
    ∧ (rebasingsOf {} ⟨0⟩ jumpy)[5]? = some later
    ∧ (-(9 / 2) ≤ later.emitted.dts - r.emitted.dts ∧ later.emitted.dts - r.emitted.dts ≤ 9)
    ∧ ∃ onTime, lastOnTime? .pts ((rebasingsOf {} ⟨0⟩ jumpy).take 5) = some onTime
      ∧ -(9 / 2) ≤ later.emitted.pts - onTime.emitted.pts
      ∧ later.emitted.pts - onTime.emitted.pts ≤ 9
  := by
  have bounds : ∀ r ∈ rebasingsOf {} ⟨0⟩ jumpy, ∀ field,
      0 ≤ r.raw.get field ∧ r.raw.get field ≤ 9 := by
    intro r mem field
    revert r
    cases field <;> decide
  have exact : ∀ r ∈ rebasingsOf {} ⟨0⟩ jumpy, ∀ field, r.Unsaturated field := by
    intro r mem field
    revert r
    cases field <;> decide
  refine ⟨_, _, rfl, rfl, ?_⟩
  exact jumps_bounded {} ⟨0⟩ .rtmp (by decide) jumpy (by decide) (by decide) bounds
    (fun field => by cases field <;> rfl) exact 4 _ _ rfl rfl

end Timeline

end MediaClock
