import Mathlib.Tactic.Ring
import MediaClock.Proofs.Timeline.Runs

/-!
# Alignment of tracks

The tracks of a stream share one counter, which shows the true times of all their packets
modulo `M`.  The clocks of an epoch are `Aligned` when they differ by what the true times
differ by, from track to track and from field to field.

The start of an epoch is the same for all tracks and fields.  But turns are counted for each
track and each field on its own, and from none at its first value on.  So the clocks are
aligned exactly when every field of every track is `Followed`: its first value lies in the
period of the first packet, and the half range test tells the period of every other one.  A
track that comes in after the counter has turned is off by a whole period.
-/

namespace MediaClock

/-! ### True times -/

/-- A packet with its true times. -/
structure Sample where
  track : Track
  time : Stamps

/-- What a counter shows of a packet. -/
def Sample.shown (s : Sample) (M : Int) : Stamps := ⟨s.time.pts % M, s.time.dts % M⟩

theorem Sample.get_shown (s : Sample) (M : Int) (field : Field) :
  (s.shown M).get field = s.time.get field % M
  := by cases field <;> rfl

/-- The true times of one field of a track, in order. -/
def timesOf (samples : List Sample) (id : TrackId) (field : Field) : List Int :=
  (samples.filter (·.track.id = id)).map (·.time.get field)

theorem timesOf_cons_self (s : Sample) (samples : List Sample) (field : Field) :
  timesOf (s :: samples) s.track.id field = s.time.get field :: timesOf samples s.track.id field
  := by simp [timesOf]

theorem timesOf_cons_of_ne {s : Sample} {id : TrackId} (other : s.track.id ≠ id)
    (samples : List Sample) (field : Field) :
  timesOf (s :: samples) id field = timesOf samples id field
  := by simp [timesOf, other]

/-- What a source promises of the packets of an epoch.  The decode times of a track never
fall, and a presentation time comes no earlier than the decode time, and no later than a
quarter of the modulus after it. -/
structure IsEpoch (M : Int) (samples : List Sample) : Prop where
  ordered : ∀ id, (timesOf samples id .dts).Pairwise (· ≤ ·)
  lead : ∀ s ∈ samples, s.time.dts ≤ s.time.pts ∧ 4 * (s.time.pts - s.time.dts) < M

/-! ### Followed times -/

namespace Field

/-- That the half range test tells the period of a true time from an origin.  A first value
is taken to come from the period `q`. -/
def TellsFrom (field : Field) (M q : Int) : Option Int → Int → Prop
  | none, y => y / M = q
  | some x, y => field.Tells M q x y

/-- The origin after a true time. -/
def originFrom (field : Field) (M : Int) : Option Int → Int → Int
  | none, y => y
  | some x, y => field.originAfter M x y

/-- That the half range test tells the periods of all true times of a list, one after the
other. -/
def Followed (field : Field) (M q : Int) : Option Int → List Int → Prop
  | _, [] => True
  | x?, y :: ys =>
    field.TellsFrom M q x? y ∧ field.Followed M q (some (field.originFrom M x? y)) ys

/-- The origin after a true time is that time or the origin before it. -/
theorem originFrom_sublist (field : Field) (M : Int) (x? : Option Int) (y : Int)
    (ys : List Int) :
  (field.originFrom M x? y :: ys).Sublist (x?.toList ++ y :: ys)
  := by
  have onTime : (y :: ys).Sublist (x?.toList ++ y :: ys) := List.sublist_append_right _ _
  cases x? with
  | none => apply onTime
  | some x =>
    have late : (x :: ys).Sublist (x :: y :: ys) := (List.sublist_cons_self y ys).cons_cons x
    cases field with
    | pts =>
      rw [originFrom, originAfter]
      split
      · apply late
      · apply onTime
    | dts => apply onTime

end Field

namespace Odometer

/-- That an odometer has seen nothing, or that it reads a true time. -/
def ReadsFrom (o : Odometer) (M q : Int) : Option Int → Prop
  | none => o = ⟨0, none⟩
  | some x => o.Reads M q x

variable {o : Odometer} {M q y : Int} {x? : Option Int} {field : Field}

/-- The periods by which a raw value is moved are those of its true time exactly when they
are told from the origin. -/
theorem ReadsFrom.periods_eq_iff (reads : o.ReadsFrom M q x?) (modulus : IsModulus M)
    (follows : ∀ x ∈ x?, field.Follows M q x y) :
  (o.periods field M (y % M) : Int) = y / M - q ↔ field.TellsFrom M q x? y
  := by
  cases x? with
  | none =>
    obtain rfl : o = ⟨0, none⟩ := reads
    rw [periods_of_origin_none rfl, Nat.cast_zero, Field.TellsFrom]
    omega
  | some x =>
    apply Reads.periods_eq_iff reads modulus (follows x rfl)

theorem ReadsFrom.next (reads : o.ReadsFrom M q x?) (modulus : IsModulus M)
    (follows : ∀ x ∈ x?, field.Follows M q x y) (tells : field.TellsFrom M q x? y) :
  (o.next field M (y % M)).ReadsFrom M q (some (field.originFrom M x? y))
  := by
  cases x? with
  | none =>
    obtain rfl : o = ⟨0, none⟩ := reads
    obtain rfl : y / M = q := tells
    have first := reads_next_of_origin_none (o := ⟨0, none⟩) (M := M) rfl field y
    rw [Nat.cast_zero, Int.sub_zero] at first
    apply first
  | some x =>
    apply Reads.next reads modulus (follows x rfl) tells

end Odometer

/-! ### Steady tracks -/

/-- That every track comes in within the period `q`, and has no decode time a quarter of the
modulus or more after the one before it. -/
structure Prompt (M q : Int) (samples : List Sample) : Prop where
  first : ∀ id field, ∀ x ∈ (timesOf samples id field).head?, x / M = q
  steady : ∀ id, (timesOf samples id .dts).IsChain fun x y => 4 * (y - x) < M

namespace Field

variable {M x d : Int}

theorem followed_dts_of_steady (pos : 1 ≤ M) (q : Int) {ds : List Int}
    (ordered : (x :: ds).Pairwise (· ≤ ·))
    (steady : (x :: ds).IsChain fun x y => 4 * (y - x) < M) :
  Field.dts.Followed M q (some x) ds
  := by
  induction ds generalizing x with
  | nil => trivial
  | cons y ds ih =>
    obtain ⟨below, ordered⟩ := List.pairwise_cons.mp ordered
    obtain ⟨near, steady⟩ := List.isChain_cons_cons.mp steady
    constructor
    · apply tells_dts_of_near pos q (below y List.mem_cons_self)
      omega
    · apply ih ordered steady

/-- The origin of steady presentation times stays close to the last decode time. -/
theorem followed_pts_of_steady (pos : 1 ≤ M) (q : Int) {own : List Sample} (after : d ≤ x)
    (close : 4 * (x - d) < M) (ordered : (d :: own.map (·.time.dts)).Pairwise (· ≤ ·))
    (steady : (d :: own.map (·.time.dts)).IsChain fun x y => 4 * (y - x) < M)
    (lead : ∀ s ∈ own, s.time.dts ≤ s.time.pts ∧ 4 * (s.time.pts - s.time.dts) < M) :
  Field.pts.Followed M q (some x) (own.map (·.time.pts))
  := by
  induction own generalizing x d with
  | nil => trivial
  | cons s own ih =>
    obtain ⟨below, ordered⟩ := List.pairwise_cons.mp ordered
    obtain ⟨near, steady⟩ := List.isChain_cons_cons.mp steady
    obtain ⟨⟨early, late⟩, others⟩ := List.forall_mem_cons.mp lead
    have onward : d ≤ s.time.dts := below _ List.mem_cons_self
    have near : 4 * (s.time.dts - d) < M := near
    have within : |s.time.pts - x| < M - M / 2 := by
      rw [abs_lt]
      omega
    constructor
    · apply tells_pts_of_near pos q within
    · change Field.pts.Followed M q (some (Field.pts.originAfter M x s.time.pts)) _
      rw [originAfter_pts_of_near pos within]
      split
      · rename_i earlier
        have lt : s.time.pts < x := by
          apply lt_of_not_ge
          intro ge
          have := Int.ediv_le_ediv (lt_of_lt_of_le one_pos pos) ge
          omega
        have after' : s.time.dts ≤ x := by omega
        have close' : 4 * (x - s.time.dts) < M := by omega
        apply ih after' close' ordered steady others
      · apply ih early late ordered steady others

end Field

/-- In an epoch, prompt tracks are followed. -/
theorem Prompt.followed {M q : Int} {samples : List Sample} (prompt : Prompt M q samples)
    (pos : 1 ≤ M) (epoch : IsEpoch M samples) (id : TrackId) (field : Field) :
  field.Followed M q none (timesOf samples id field)
  := by
  have first := prompt.first id field
  have steady := prompt.steady id
  have ordered := epoch.ordered id
  have lead : ∀ s ∈ samples.filter (·.track.id = id), _ := fun s mem =>
    epoch.lead s (List.mem_of_mem_filter mem)
  rw [timesOf] at first steady ordered ⊢
  cases own : samples.filter (·.track.id = id) with
  | nil => trivial
  | cons s rest =>
    rw [own] at first steady ordered lead
    obtain ⟨⟨early, late⟩, others⟩ := List.forall_mem_cons.mp lead
    constructor
    · apply first _ rfl
    · cases field with
      | pts => apply Field.followed_pts_of_steady pos q early late ordered steady others
      | dts => apply Field.followed_dts_of_steady pos q ordered steady

namespace Timeline

/-! ### Packets with their true times -/

/-- A packet as it meets a timeline. -/
def meet (t : Timeline) (M : Int) (s : Sample) : Rebasing := ⟨t, s.track, s.shown M, M⟩

/-- The packets of a run, each with its true times. -/
def readings (t : Timeline) (M : Int) (samples : List Sample) : List (Sample × Rebasing) :=
  samples.zip (t.rebasings (samples.map fun s => .rebase s.track (s.shown M) M))

theorem readings_cons (t : Timeline) (M : Int) (s : Sample) (samples : List Sample) :
  t.readings M (s :: samples) = (s, t.meet M s) :: (t.meet M s).after.readings M samples
  := rfl

/-- That the clock values of a run are in line: the decode times of any two packets, on
whichever tracks, differ by what their true times differ by, and the two times of every
packet do. -/
structure Aligned (t : Timeline) (M : Int) (samples : List Sample) : Prop where
  tracks : ∀ a ∈ t.readings M samples, ∀ b ∈ t.readings M samples,
    a.2.emitted.dts - b.2.emitted.dts = a.1.time.dts - b.1.time.dts
  fields : ∀ a ∈ t.readings M samples,
    a.2.emitted.pts - a.2.emitted.dts = a.1.time.pts - a.1.time.dts

variable {t : Timeline} {M q : Int} {samples : List Sample}

/-- The packets of one track are moved by the periods of their true times exactly when the
half range test follows them. -/
theorem periods_iff_followed (modulus : IsModulus M) (field : Field) (id : TrackId)
    {x? : Option Int} (reads : (t.odometer field id).ReadsFrom M q x?)
    (follows : (x?.toList ++ timesOf samples id field).Pairwise (field.Follows M q)) :
  (∀ a ∈ t.readings M samples, a.1.track.id = id →
      (a.2.periods field : Int) = a.1.time.get field / M - q)
    ↔ field.Followed M q x? (timesOf samples id field)
  := by
  -- Packets of other tracks leave the odometer and the times of the track as they are.
  induction samples generalizing t x? with
  | nil => simp [readings, timesOf, Field.Followed]
  | cons s samples ih =>
    rw [readings_cons, List.forall_mem_cons]
    by_cases own : s.track.id = id
    · subst own
      have periods : (t.meet M s).periods field
          = (t.odometer field s.track.id).periods field M (s.time.get field % M) := by
        rw [← s.get_shown]
        rfl
      have next : (t.meet M s).after.odometer field s.track.id
          = (t.odometer field s.track.id).next field M (s.time.get field % M) := by
        rw [← s.get_shown]
        apply (t.meet M s).odometer_after field
      rw [timesOf_cons_self] at follows ⊢
      have first : ∀ x ∈ x?, field.Follows M q x (s.time.get field) := by
        intro x mem
        apply (List.pairwise_append.mp follows).2.2 x (Option.mem_toList.mpr mem) _
          List.mem_cons_self
      rw [Field.Followed, periods, ← reads.periods_eq_iff modulus first]
      simp only [forall_const]
      apply and_congr_right
      intro told
      have tells := (reads.periods_eq_iff modulus first).mp told
      have reads' := reads.next modulus first tells
      rw [← next] at reads'
      apply ih reads'
      apply List.Pairwise.sublist (field.originFrom_sublist M x? _ _) follows
    · have next : (t.meet M s).after.odometer field id = t.odometer field id :=
        (t.odometer_rebase s.track (s.shown M) M field id).trans (if_neg own)
      rw [timesOf_cons_of_ne own] at follows ⊢
      rw [← next] at reads
      rw [← ih reads follows]
      simp [own]

/-- Decode times that are followed never come from before the period `q`. -/
theorem le_ediv_of_followed (modulus : IsModulus M) (epoch : IsEpoch M samples) {id : TrackId}
    (followed : Field.dts.Followed M q none (timesOf samples id .dts)) :
  ∀ d ∈ timesOf samples id .dts, q ≤ d / M
  := by
  have ordered := epoch.ordered id
  cases times : timesOf samples id .dts with
  | nil => exact nofun
  | cons first rest =>
    rw [times] at followed ordered
    obtain ⟨rfl, -⟩ := followed
    rw [List.forall_mem_cons]
    constructor
    · rfl
    · intro d mem
      apply Int.ediv_le_ediv (zero_lt_one.trans_le modulus.pos)
      apply (List.pairwise_cons.mp ordered).1 d mem

/-- Where decode times are followed, every value of a track comes after all values before
it, as far as its field allows. -/
theorem pairwise_follows (modulus : IsModulus M) (epoch : IsEpoch M samples) {id : TrackId}
    (followed : Field.dts.Followed M q none (timesOf samples id .dts)) (field : Field) :
  (timesOf samples id field).Pairwise (field.Follows M q)
  := by
  cases field with
  | pts =>
    have floor := le_ediv_of_followed modulus epoch followed
    have ordered := epoch.ordered id
    rw [timesOf, List.pairwise_map] at ordered
    rw [timesOf, List.pairwise_map]
    apply ordered.imp_of_mem
    intro a b memA memB le
    have := epoch.lead a (List.mem_of_mem_filter memA)
    have := epoch.lead b (List.mem_of_mem_filter memB)
    have le' : a.time.dts ≤ b.time.dts := le
    constructor
    · apply (floor _ (List.mem_map_of_mem memB)).trans
      apply Int.ediv_le_ediv (zero_lt_one.trans_le modulus.pos)
      exact (epoch.lead b (List.mem_of_mem_filter memB)).1
    · change a.time.pts - b.time.pts < M - M / 2
      have := modulus.pos
      omega
  | dts => apply epoch.ordered

/-- All packets of an epoch are moved by the periods of their true times exactly when the
half range test follows every field of every track. -/
theorem forall_periods_iff_followed (modulus : IsModulus M) (epoch : IsEpoch M samples)
    (fresh : ∀ field id, t.odometer field id = ⟨0, none⟩) :
  (∀ a ∈ t.readings M samples, ∀ field,
      (a.2.periods field : Int) = a.1.time.get field / M - q)
    ↔ ∀ id (field : Field), field.Followed M q none (timesOf samples id field)
  := by
  have unread : ∀ field id, (t.odometer field id).ReadsFrom M q none := fresh
  constructor
  · intro right id field
    have followed := (periods_iff_followed modulus .dts id (unread .dts id)
      (epoch.ordered id)).mp fun a mem _ => right a mem .dts
    apply (periods_iff_followed modulus field id (unread field id)
      (pairwise_follows modulus epoch followed field)).mp
    intro a mem _
    apply right a mem field
  · intro followed a mem field
    apply (periods_iff_followed modulus field a.1.track.id (unread field _)
      (pairwise_follows modulus epoch (followed _ .dts) field)).mpr (followed _ field) a mem rfl

/-! ### Alignment -/

/-- The packets of tracks with one timebase and one base have the same offset. -/
theorem offset_of_mem_readings {timebase : Timebase} {base start : Int}
    (common : ∀ s ∈ samples, s.track.timebase = timebase ∧ t.base s.track.id = base)
    (captured : ∀ s ∈ samples.head?, (t.meet M s).start = start) :
  ∀ a ∈ t.readings M samples, a.2.offset
    = timebase.toTicks t.settings.conversion base - timebase.toTicks t.settings.conversion start
  := by
  induction samples generalizing t with
  | nil => simp [readings]
  | cons s samples ih =>
    obtain ⟨⟨own, based⟩, others⟩ := List.forall_mem_cons.mp common
    have head : (t.meet M s).start = start := captured s rfl
    rw [readings_cons, List.forall_mem_cons]
    constructor
    · rw [Rebasing.offset, Rebasing.startTicks, head, baseTicks]
      change s.track.timebase.toTicks _ (t.base s.track.id) - s.track.timebase.toTicks _ _ = _
      rw [own, based]
      rfl
    · apply ih (t := (t.meet M s).after) others
      intro later _
      rw [Rebasing.start, startFrom]
      change (t.meet M s).after.start?.getD _ = start
      rw [Rebasing.start?_after, head]
      rfl

theorem meet_of_mem_readings {a : Sample × Rebasing} (mem : a ∈ t.readings M samples) :
  ∃ u, a.2 = meet u M a.1
  := by
  induction samples generalizing t with
  | nil => simp [readings] at mem
  | cons s samples ih =>
    rw [readings_cons] at mem
    obtain rfl | later := List.mem_cons.mp mem
    · use t
    · apply ih later

/-- A clock value is off by the periods of the true time that are not counted. -/
theorem emitted_of_mem_readings {a : Sample × Rebasing} (mem : a ∈ t.readings M samples)
    {field : Field} (exact : a.2.Unsaturated field) :
  a.2.emitted.get field
    = a.2.offset + a.1.time.get field
      - (a.1.time.get field / M - a.2.periods field) * M
  := by
  obtain ⟨u, met⟩ := meet_of_mem_readings mem
  have raw : a.2.raw.get field = a.1.time.get field % M := by
    rw [met]
    apply a.1.get_shown
  have modulus : a.2.modulus = M := by
    rw [met]
    rfl
  rw [exact.get_emitted, raw, modulus, Int.emod_def]
  ring

/-- The clocks of an epoch are aligned exactly when every packet is moved by the periods
since the first one. -/
theorem aligned_iff_forall_periods (pos : 1 ≤ M) {first : Sample} {rest : List Sample}
    (fresh : t.odometer .dts first.track.id = ⟨0, none⟩) {offset : Int}
    (offsets : ∀ a ∈ t.readings M (first :: rest), a.2.offset = offset)
    (exact : ∀ a ∈ t.readings M (first :: rest), ∀ field, a.2.Unsaturated field) :
  Aligned t M (first :: rest)
    ↔ ∀ a ∈ t.readings M (first :: rest), ∀ field,
        (a.2.periods field : Int) = a.1.time.get field / M - first.time.dts / M
  := by
  have emitted (a) (mem : a ∈ t.readings M (first :: rest)) (field : Field) :
      a.2.emitted.get field = offset + a.1.time.get field
        - (a.1.time.get field / M - a.2.periods field) * M := by
    rw [emitted_of_mem_readings mem (exact a mem field), offsets a mem]
  have head : (first, t.meet M first) ∈ t.readings M (first :: rest) := List.mem_cons_self
  have start : (t.meet M first).periods .dts = 0 := by
    rw [Rebasing.periods, Rebasing.odometer]
    change (t.odometer .dts first.track.id).periods _ _ _ = 0
    rw [fresh]
    apply Odometer.periods_of_origin_none rfl
  have base : (t.meet M first).emitted.dts
      = offset + first.time.dts - first.time.dts / M * M := by
    have value := emitted _ head .dts
    rw [start, Nat.cast_zero, Int.sub_zero] at value
    apply value
  constructor
  · intro aligned a mem field
    have tracks : a.2.emitted.dts - (t.meet M first).emitted.dts
        = a.1.time.dts - first.time.dts :=
      aligned.tracks a mem (first, t.meet M first) head
    have fields := aligned.fields a mem
    -- Both fields of the packet are off by as much as the first decode time is.
    have off : a.2.emitted.get field
        = offset + a.1.time.get field - first.time.dts / M * M := by
      cases field with
      | pts =>
        change a.2.emitted.pts = offset + a.1.time.pts - _
        omega
      | dts =>
        change a.2.emitted.dts = offset + a.1.time.dts - _
        omega
    have same : (a.1.time.get field / M - a.2.periods field) * M = first.time.dts / M * M := by
      have := emitted a mem field
      omega
    have := Int.eq_of_mul_eq_mul_right (zero_lt_one.trans_le pos).ne' same
    omega
  · intro right
    have inLine (a) (mem : a ∈ t.readings M (first :: rest)) (field : Field) :
        a.2.emitted.get field = offset + a.1.time.get field - first.time.dts / M * M := by
      rw [emitted a mem field, right a mem field, Int.sub_sub_self]
    constructor
    · intro a memA b memB
      have dtsA : a.2.emitted.dts = offset + a.1.time.dts - _ := inLine a memA .dts
      have dtsB : b.2.emitted.dts = offset + b.1.time.dts - _ := inLine b memB .dts
      omega
    · intro a mem
      have dts : a.2.emitted.dts = offset + a.1.time.dts - _ := inLine a mem .dts
      have pts : a.2.emitted.pts = offset + a.1.time.pts - _ := inLine a mem .pts
      omega

/-- The clocks of an epoch are aligned exactly when the half range test follows every field
of every track from the period of the first packet on.  It does so for prompt tracks. -/
theorem aligned_iff_followed (t : Timeline) {M : Int} (modulus : IsModulus M)
    (fresh : ∀ field id, t.odometer field id = ⟨0, none⟩) (first : Sample) (rest : List Sample)
    (timebase : Timebase) (base : Int)
    (common : ∀ s ∈ first :: rest, s.track.timebase = timebase ∧ t.base s.track.id = base)
    (epoch : IsEpoch M (first :: rest))
    (exact : ∀ a ∈ t.readings M (first :: rest), ∀ field, a.2.Unsaturated field) :
  (Aligned t M (first :: rest)
      ↔ ∀ id (field : Field),
        field.Followed M (first.time.dts / M) none (timesOf (first :: rest) id field))
    ∧ (Prompt M (first.time.dts / M) (first :: rest) → Aligned t M (first :: rest))
  := by
  have captured : ∀ s ∈ (first :: rest).head?, (t.meet M s).start = (t.meet M first).start := by
    rintro _ ⟨⟩
    rfl
  have periods := aligned_iff_forall_periods modulus.pos (fresh .dts _)
    (offset_of_mem_readings common captured) exact
  rw [periods, forall_periods_iff_followed modulus epoch fresh]
  constructor
  · rfl
  · intro prompt id field
    apply prompt.followed modulus.pos epoch

/-- Two tracks in turn that pass the end of their counter, presentation times first. -/
def twoTracks : List Sample := [
  ⟨⟨⟨0⟩, .video, .rtmp⟩, ⟨800, 750⟩⟩,
  ⟨⟨⟨1⟩, .audio, .rtmp⟩, ⟨820, 820⟩⟩,
  ⟨⟨⟨0⟩, .video, .rtmp⟩, ⟨1010, 960⟩⟩,
  ⟨⟨⟨1⟩, .audio, .rtmp⟩, ⟨1030, 1030⟩⟩,
  ⟨⟨⟨0⟩, .video, .rtmp⟩, ⟨1200, 1150⟩⟩]

/-- The two tracks have both come in before their counter turns. -/
theorem aligned_twoTracks :
  Aligned {} 1000 twoTracks
  := by
  have ids (id) : id = ⟨0⟩ ∨ id = ⟨1⟩ ∨ ∀ field, timesOf twoTracks id field = [] := by
    by_cases video : id = ⟨0⟩
    · exact .inl video
    · by_cases audio : id = ⟨1⟩
      · exact .inr (.inl audio)
      · simp [timesOf, twoTracks, Ne.symm video, Ne.symm audio]
  have fresh : ∀ field id, odometer {} field id = ⟨0, none⟩ := by
    intro field id
    cases field <;> rfl
  have prompt : Prompt 1000 0 twoTracks := by
    constructor
    · intro id field
      obtain rfl | rfl | silent := ids id
      · cases field <;> decide
      · cases field <;> decide
      · rw [silent]
        exact nofun
    · intro id
      obtain rfl | rfl | silent := ids id
      · decide
      · decide
      · rw [silent]
        exact .nil
  have epoch : IsEpoch 1000 twoTracks := by
    constructor
    · intro id
      apply List.Pairwise.sublist (List.filter_sublist.map _)
      decide
    · decide
  have exact : ∀ a ∈ readings {} 1000 twoTracks, ∀ field, a.2.Unsaturated field := by
    intro a mem field
    cases field <;> revert a mem <;> decide
  apply (aligned_iff_followed {} ⟨by decide, by decide⟩ fresh
    ⟨⟨⟨0⟩, .video, .rtmp⟩, ⟨800, 750⟩⟩ twoTracks.tail .rtmp 0 (by decide) epoch exact).2 prompt

/-- A track that comes in after the counter has turned. -/
def lateTrack : List Sample := [
  ⟨⟨⟨0⟩, .video, .rtmp⟩, ⟨900, 900⟩⟩,
  ⟨⟨⟨0⟩, .video, .rtmp⟩, ⟨1050, 1050⟩⟩,
  ⟨⟨⟨1⟩, .audio, .rtmp⟩, ⟨1060, 1060⟩⟩]

/-- The packets of two tracks follow one another closely, and yet the late track is off by a
whole period. -/
theorem not_aligned_lateTrack :
  IsEpoch 1000 lateTrack
    ∧ (lateTrack.map (·.time.dts)).IsChain (fun x y => 4 * |y - x| < 1000)
    ∧ (∀ a ∈ readings {} 1000 lateTrack, ∀ field, a.2.Unsaturated field)
    ∧ ¬ Aligned {} 1000 lateTrack
  := by
  refine ⟨⟨?_, by decide⟩, by decide, ?_, ?_⟩
  · intro id
    apply List.Pairwise.sublist (List.filter_sublist.map _)
    decide
  · intro a mem field
    cases field <;> revert a mem <;> decide
  · intro aligned
    have tracks := aligned.tracks
    revert tracks
    decide

end Timeline

end MediaClock
