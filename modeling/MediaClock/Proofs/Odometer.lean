import Mathlib.Tactic.Linarith
import Mathlib.Tactic.Ring
import MediaClock.Timeline.Unwrapper

/-!
# Odometers

An odometer is what an unwrapper keeps of one track: the number of forward turns and the
origin of the next turn.

A counter under a modulus `M` shows the remainder `x % M` of a true time `x`, which lies in
the period `x / M`.  An odometer `Reads` a true time `x` when its origin is what the counter
shows at `x`, and its turns are the periods from a period `q` up to the one of `x`.  The half
range test compares the origin with what the counter shows at another time `y`.  The
predicate `Field.Tells` says when that is enough to tell the period of `y`, and
`Reads.periods_eq_iff` that it says so exactly.
-/

namespace MediaClock

/-- The moduli of counters: positive timestamps. -/
structure IsModulus (M : Int) : Prop where
  pos : 1 ≤ M
  le_highest : M ≤ Saturating.highest

/-- What is made of a turn of a field: a decode counter never runs back. -/
def Field.settle : Field → Turn → Turn
  | .pts, turn => turn
  | .dts, turn => turn.onward

/-- The state of the counter of one field of one track. -/
structure Odometer where
  /-- Forward turns so far. -/
  turns : Nat
  /-- The raw value with which the next one is compared. -/
  origin? : Option Int
deriving DecidableEq, Repr

namespace Odometer

/-- How a raw value of a field stands to the origin. -/
def turn (o : Odometer) (field : Field) (M raw : Int) : Turn :=
  field.settle (Turn.between M o.origin? raw)

/-- The number of periods by which a raw value of a field is moved. -/
def periods (o : Odometer) (field : Field) (M raw : Int) : Nat :=
  match o.turn field M raw with
  | .level => o.turns
  | .forward => o.turns + 1
  | .reverse => o.turns - 1

/-- The odometer after a raw value of a field. -/
def next (o : Odometer) (field : Field) (M raw : Int) : Odometer :=
  match o.turn field M raw with
  | .level => { o with origin? := some raw }
  | .forward => ⟨o.turns + 1, some raw⟩
  | .reverse => o

end Odometer

namespace Unwrapper

/-- The odometer of one track. -/
def odometer (u : Unwrapper) (id : TrackId) : Odometer := ⟨u.count id, u.origins.get? id⟩

/-- A raw value of a track moves the odometer of that track, and no other one. -/
theorem odometer_record (u : Unwrapper) (field : Field) (M : Int) (id other : TrackId)
    (raw : Int) :
  (u.record id raw (field.settle (u.turn M id raw))).odometer other
    = if id = other then (u.odometer id).next field M raw else u.odometer other
  := by
  rw [Odometer.next, Odometer.turn]
  change (u.record id raw (field.settle (u.turn M id raw))).odometer other
    = if id = other then
        match field.settle (u.turn M id raw) with
        | .level => { u.odometer id with origin? := some raw }
        | .forward => ⟨(u.odometer id).turns + 1, some raw⟩
        | .reverse => u.odometer id
      else u.odometer other
  cases field.settle (u.turn M id raw) <;> split <;>
    simp_all [record, odometer, count]

theorem periods_turn (u : Unwrapper) (field : Field) (M : Int) (id : TrackId) (raw : Int) :
  u.periods id (field.settle (u.turn M id raw)) = (u.odometer id).periods field M raw
  := by
  rw [Odometer.periods, Odometer.turn]
  change _ = match field.settle (u.turn M id raw) with
    | .level => u.count id
    | .forward => u.count id + 1
    | .reverse => u.count id - 1
  cases field.settle (u.turn M id raw) <;> rfl

end Unwrapper

/-! ### The half range test -/

/-- A counter shows values from zero up to its modulus. -/
theorem emod_bounds {M : Int} (pos : 1 ≤ M) (x : Int) :
  0 ≤ x % M ∧ x % M < M
  := by
  constructor
  · apply Int.emod_nonneg
    omega
  · apply Int.emod_lt_of_pos
    omega

/-- What a counter shows of a time is a timestamp. -/
theorem IsModulus.fits_emod {M : Int} (modulus : IsModulus M) (x : Int) :
  Saturating.Fits (x % M)
  := by
  have := modulus.le_highest
  have := emod_bounds modulus.pos x
  simp only [Saturating.Fits, Saturating.lowest, Saturating.highest] at *
  omega

/-- What a counter shows at two times differs by what the times differ by, less the periods
between them. -/
theorem emod_sub_emod (x y M : Int) :
  y % M - x % M = y - x - (y / M - x / M) * M
  := by
  rw [Int.emod_def, Int.emod_def]
  ring

/-- The periods between two times, the second no more than a period before the first, and
what the counter then shows. -/
theorem period_cases {M x y : Int} (pos : 1 ≤ M) (low : x - y < M) :
  y / M = x / M - 1 ∧ y % M - x % M = y - x + M
    ∨ y / M = x / M ∧ y % M - x % M = y - x
    ∨ y / M = x / M + 1 ∧ y % M - x % M = y - x - M
    ∨ x / M + 2 ≤ y / M
  := by
  have shown := emod_sub_emod x y M
  have := emod_bounds pos x
  have := emod_bounds pos y
  have reach : -2 < y / M - x / M := by
    have nonneg : 0 ≤ M := by omega
    apply lt_of_not_ge
    intro le
    have := Int.mul_le_mul_of_nonneg_right le nonneg
    omega
  obtain before | same | after | beyond :
      y / M - x / M = -1 ∨ y / M - x / M = 0 ∨ y / M - x / M = 1 ∨ 2 ≤ y / M - x / M := by
    omega
  · rw [before] at shown
    omega
  · rw [same] at shown
    omega
  · rw [after] at shown
    omega
  · omega

/-- The half range test on raw values up to the modulus, where no difference saturates. -/
theorem Turn.between_of_bounds {M origin raw : Int} (fits : M ≤ Saturating.highest)
    (originBounds : 0 ≤ origin ∧ origin ≤ M) (rawBounds : 0 ≤ raw ∧ raw ≤ M) :
  Turn.between M (some origin) raw =
    if M / 2 < origin - raw then .forward
    else if M / 2 < raw - origin then .reverse
    else .level
  := by
  have exact_sub {a b : Int} (low : -M ≤ a - b) (high : a - b ≤ M) :
      Saturating.sub a b = a - b := by
    apply Saturating.clamp_of_fits
    simp only [Saturating.Fits, Saturating.lowest, Saturating.highest] at *
    omega
  rw [Turn.between, Int.tdiv_eq_ediv_of_nonneg (by omega), exact_sub (by omega) (by omega),
    exact_sub (by omega) (by omega)]

namespace Field

/-- When the true time `y` comes after the true time `x` as the field allows: decode times
never fall, and presentation times do so by less than half of the modulus, and not below the
period `q`. -/
def Follows (field : Field) (M q x y : Int) : Prop :=
  match field with
  | .pts => q ≤ y / M ∧ x - y < M - M / 2
  | .dts => x ≤ y

/-- When the half range test tells the period of the true time `y` from the origin `x`.  A
step into the next period has to be shorter than the rest of the range.  A presentation time
further up in the period of its origin is taken for a late one, which does no harm only
while no turn is counted, in the period `q`. -/
def Tells (field : Field) (M q x y : Int) : Prop :=
  match field with
  | .pts => y / M ≤ x / M + 1 ∧ (y / M = x / M + 1 → y - x < M - M / 2)
      ∧ (y / M = x / M → x / M = q ∨ y - x ≤ M / 2)
  | .dts => y / M = x / M ∨ y / M = x / M + 1 ∧ y - x < M - M / 2

/-- The true time of the origin after the true time `y`: a late presentation time leaves the
origin as it is. -/
def originAfter (field : Field) (M x y : Int) : Int :=
  match field with
  | .pts => if M / 2 < y % M - x % M then x else y
  | .dts => y

variable {M x y : Int}

/-- A time less than a period ahead lies at most one period ahead. -/
theorem ediv_le_of_near (pos : 1 ≤ M) (near : y - x < M) :
  y / M ≤ x / M + 1
  := by
  have := period_cases pos near
  omega

/-- Decode times that do not fall are told as long as they advance by less than the rest of
the half range. -/
theorem tells_dts_of_near (pos : 1 ≤ M) (q : Int) (ahead : x ≤ y) (near : y - x < M - M / 2) :
  Field.dts.Tells M q x y
  := by
  have within : y - x < M := by omega
  have := ediv_le_of_near pos within
  have := Int.ediv_le_ediv (lt_of_lt_of_le one_pos pos) ahead
  simp only [Tells]
  omega

/-- Presentation times are told as long as they are closer to their origin than the rest of
the half range. -/
theorem tells_pts_of_near (pos : 1 ≤ M) (q : Int) (near : |y - x| < M - M / 2) :
  Field.pts.Tells M q x y
  := by
  obtain ⟨low, high⟩ := abs_lt.mp near
  have within : y - x < M := by omega
  have := ediv_le_of_near pos within
  simp only [Tells]
  omega

/-- Of presentation times so close, those from an earlier period than their origin leave it
as it is. -/
theorem originAfter_pts_of_near (pos : 1 ≤ M) (near : |y - x| < M - M / 2) :
  Field.pts.originAfter M x y = if y / M < x / M then x else y
  := by
  obtain ⟨low, high⟩ := abs_lt.mp near
  have below : x - y < M := by omega
  have above : y - x < M := by omega
  have := period_cases pos below
  have := ediv_le_of_near pos above
  have := emod_bounds pos x
  have := emod_bounds pos y
  apply if_congr _ rfl rfl
  omega

end Field

namespace Odometer

/-- An odometer with its origin at the true time `x`, whose turns are counted from the
period `q`. -/
structure Reads (o : Odometer) (M q x : Int) : Prop where
  origin : o.origin? = some (x % M)
  turns : (o.turns : Int) = x / M - q

variable {o : Odometer} {M q x y : Int}

/-- The first raw value counts no turn. -/
theorem periods_of_origin_none (fresh : o.origin? = none) (field : Field) (raw : Int) :
  o.periods field M raw = o.turns
  := by
  cases field <;> simp [periods, turn, fresh, Turn.between, Field.settle, Turn.onward]

/-- The first raw value becomes the origin. -/
theorem reads_next_of_origin_none (fresh : o.origin? = none) (field : Field) (x : Int) :
  (o.next field M (x % M)).Reads M (x / M - o.turns) x
  := by
  cases field <;> constructor <;>
    simp [next, turn, fresh, Turn.between, Field.settle, Turn.onward]

/-- The turns of a raw value, by the half range test. -/
theorem turn_cases {origin raw : Int} (seen : o.origin? = some origin)
    (fits : M ≤ Saturating.highest) (originBounds : 0 ≤ origin ∧ origin ≤ M)
    (rawBounds : 0 ≤ raw ∧ raw ≤ M) (field : Field) :
  o.turn field M raw = .forward ∧ M / 2 < origin - raw
    ∨ o.turn field M raw = .reverse ∧ field = .pts ∧ M / 2 < raw - origin
    ∨ o.turn field M raw = .level ∧ origin - raw ≤ M / 2 ∧ (field = .pts → raw - origin ≤ M / 2)
  := by
  rw [turn, seen, Turn.between_of_bounds fits originBounds rawBounds]
  by_cases forward : M / 2 < origin - raw
  · left
    rw [if_pos forward]
    cases field <;> exact ⟨rfl, forward⟩
  · rw [if_neg forward]
    right
    by_cases reverse : M / 2 < raw - origin
    · rw [if_pos reverse]
      cases field with
      | pts => exact .inl ⟨rfl, rfl, reverse⟩
      | dts => exact .inr ⟨rfl, by omega, nofun⟩
    · rw [if_neg reverse]
      right
      cases field <;> exact ⟨rfl, by omega, by omega⟩

/-- The turns of a true time, by what the counter shows. -/
theorem Reads.turn_cases (reads : o.Reads M q x) (modulus : IsModulus M) (field : Field)
    (y : Int) :
  o.turn field M (y % M) = .forward ∧ M / 2 < x % M - y % M
    ∨ o.turn field M (y % M) = .reverse ∧ field = .pts ∧ M / 2 < y % M - x % M
    ∨ o.turn field M (y % M) = .level ∧ x % M - y % M ≤ M / 2
        ∧ (field = .pts → y % M - x % M ≤ M / 2)
  := by
  have := emod_bounds modulus.pos x
  have := emod_bounds modulus.pos y
  apply Odometer.turn_cases reads.origin modulus.le_highest
  · omega
  · omega

/-- The periods by which a raw value is moved are those of its true time exactly when the
half range test tells them. -/
theorem Reads.periods_eq_iff (reads : o.Reads M q x) (modulus : IsModulus M) {field : Field}
    (follows : field.Follows M q x y) :
  (o.periods field M (y % M) : Int) = y / M - q ↔ field.Tells M q x y
  := by
  have pos := modulus.pos
  have turns := reads.turns
  have := emod_bounds pos x
  have := emod_bounds pos y
  have turn := reads.turn_cases modulus field y
  rw [periods]
  cases field with
  | pts =>
    obtain ⟨floor, near⟩ := follows
    have below : x - y < M := by omega
    have period := period_cases pos below
    simp only [Field.Tells]
    obtain ⟨turn, forward⟩ | ⟨turn, -, reverse⟩ | ⟨turn, low, high⟩ := turn
    · simp only [turn]
      omega
    · simp only [turn]
      omega
    · have := high rfl
      simp only [turn]
      omega
  | dts =>
    have ahead : x ≤ y := follows
    have below : x - y < M := by omega
    have period := period_cases pos below
    simp only [Field.Tells]
    obtain ⟨turn, forward⟩ | ⟨-, pts, -⟩ | ⟨turn, low, -⟩ := turn
    · simp only [turn]
      omega
    · cases pts
    · simp only [turn]
      omega

/-- Where the half range test tells the period of a true time, the odometer reads on. -/
theorem Reads.next (reads : o.Reads M q x) (modulus : IsModulus M) {field : Field}
    (follows : field.Follows M q x y) (tells : field.Tells M q x y) :
  (o.next field M (y % M)).Reads M q (field.originAfter M x y)
  := by
  have right := (reads.periods_eq_iff modulus follows).mpr tells
  rw [periods] at right
  rw [Odometer.next]
  obtain ⟨turn, forward⟩ | ⟨turn, rfl, reverse⟩ | ⟨turn, -, notLate⟩ :=
    reads.turn_cases modulus field y
  · have origin : field.originAfter M x y = y := by
      cases field with
      | pts =>
        have := modulus.pos
        apply if_neg
        omega
      | dts => rfl
    rw [turn, origin]
    rw [turn] at right
    exact ⟨rfl, right⟩
  · have origin : Field.pts.originAfter M x y = x := if_pos reverse
    rw [turn, origin]
    exact reads
  · have origin : field.originAfter M x y = y := by
      cases field with
      | pts =>
        have := notLate rfl
        apply if_neg
        omega
      | dts => rfl
    rw [turn, origin]
    rw [turn] at right
    exact ⟨rfl, right⟩

end Odometer

/-! ### The lower half -/

/-- That a raw value lies in the lower half of what a counter shows. -/
def IsLow (M raw : Int) : Prop := 0 ≤ raw ∧ 2 * raw < M

instance (M raw : Int) : Decidable (IsLow M raw) := inferInstanceAs (Decidable (_ ∧ _))

/-- What lies in the lower half is shown at the time that it stands for. -/
theorem IsLow.emod_eq {M raw : Int} (low : IsLow M raw) :
  raw % M = raw
  := by
  obtain ⟨nonneg, below⟩ := low
  apply Int.emod_eq_of_lt nonneg
  omega

/-- That a counter has not turned, and was last seen in its lower half. -/
structure Odometer.Unturned (o : Odometer) (M : Int) : Prop where
  turns : o.turns = 0
  origin : ∀ raw ∈ o.origin?, IsLow M raw

namespace Odometer

variable {o : Odometer} {M raw : Int}

/-- Where all raw values lie in the lower half, there are no turns. -/
theorem Unturned.turn_eq (unturned : o.Unturned M) (modulus : IsModulus M) (field : Field)
    (low : IsLow M raw) :
  o.turn field M raw = .level
  := by
  rw [turn]
  cases seen : o.origin? with
  | none => cases field <;> rfl
  | some origin =>
    obtain ⟨_, _⟩ := unturned.origin origin seen
    obtain ⟨_, _⟩ := low
    rw [Turn.between_of_bounds modulus.le_highest (by omega) (by omega), if_neg (by omega),
      if_neg (by omega)]
    cases field <;> rfl

theorem Unturned.periods_eq (unturned : o.Unturned M) (modulus : IsModulus M) (field : Field)
    (low : IsLow M raw) :
  o.periods field M raw = 0
  := by
  rw [periods, unturned.turn_eq modulus field low, unturned.turns]

theorem Unturned.next (unturned : o.Unturned M) (modulus : IsModulus M) (field : Field)
    (low : IsLow M raw) :
  (o.next field M raw).Unturned M
  := by
  rw [Odometer.next, unturned.turn_eq modulus field low]
  constructor
  · apply unturned.turns
  · rintro _ ⟨⟩
    apply low

end Odometer

end MediaClock
