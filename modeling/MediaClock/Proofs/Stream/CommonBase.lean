import MediaClock.Proofs.Stream.Epochs

/-!
# When the tracks of a stream have one base

A start moves the bases of all tracks on by one outage, and a stop moves them to one anchor, so
neither moves the tracks apart.  But a track that is added has its base at zero, wherever the
other tracks have theirs.  So the tracks have one base exactly when every addition of a track
to others that have moved on is followed by a call that brings all bases together again.
-/

namespace MediaClock.LiveStream

variable {s : LiveStream}

/-- That the tracks of a stream have one base. -/
def HasOneBase (s : LiveStream) : Prop :=
  ∀ id ∈ s.tracks.keys, ∀ other ∈ s.tracks.keys, s.timeline.base id = s.timeline.base other

instance (s : LiveStream) : Decidable (HasOneBase s) :=
  inferInstanceAs (Decidable (∀ _ ∈ _, _))

/-- That a call adds a track to others, one of which has left base zero. -/
def Parts : LiveStream × Call → Prop
  | (s, .addTrack track) =>
    track.id ∉ s.tracks.keys ∧ ∃ id ∈ s.tracks.keys, s.timeline.base id ≠ 0
  | _ => False

/-- That a call brings all bases together, wherever they are: it closes an epoch that has an
anchor, or it bridges an outage so long that every base ends at the largest timestamp. -/
def Aligns : LiveStream × Call → Prop
  | (s, .stop) => s.phase ≠ .stopped ∧ (s.timeline.anchor? s.tracks).isSome
  | (s, .start now) => ∃ last ∈ s.lastPacket?, ∀ id ∈ s.tracks.keys,
    Saturating.highest ≤ s.timeline.base id + outageMicros last now
  | _ => False

/-! ### One call -/

theorem hasOneBase_addTrack_iff (sound : IsSound s) (track : Track) :
  HasOneBase (s.perform (.addTrack track)).state
    ↔ HasOneBase s ∧ ¬ Parts (s, .addTrack track)
  := by
  have mem (id : TrackId) : id ∈ (s.perform (.addTrack track)).state.tracks.keys
      ↔ track.id = id ∨ id ∈ s.tracks.keys := by
    rw [KeyedList.mem_keys, KeyedList.mem_keys, contains_perform_addTrack]
  constructor
  · intro same
    constructor
    · intro id known other knownOther
      apply same id ((mem id).mpr (.inr known)) other ((mem other).mpr (.inr knownOther))
    · rintro ⟨unknown, id, known, moved⟩
      apply moved
      rw [← sound.unknown track.id (unknown ∘ KeyedList.mem_keys.mpr)]
      apply same id ((mem id).mpr (.inr known)) track.id ((mem track.id).mpr (.inl rfl))
  · rintro ⟨same, stays⟩ id known other knownOther
    by_cases again : track.id ∈ s.tracks.keys
    · -- The track takes the place of another one, so no identifier is new.
      have old {id : TrackId} (known : id ∈ (s.perform (.addTrack track)).state.tracks.keys) :
          id ∈ s.tracks.keys := by
        obtain rfl | old := (mem id).mp known
        · apply again
        · apply old
      apply same id (old known) other (old knownOther)
    · -- The base of a new track is zero, and so are the others if the call does not part them.
      have zero {id : TrackId} (known : id ∈ (s.perform (.addTrack track)).state.tracks.keys) :
          s.timeline.base id = 0 := by
        obtain rfl | old := (mem id).mp known
        · apply sound.unknown track.id (again ∘ KeyedList.mem_keys.mpr)
        · by_contra moved
          apply stays ⟨again, id, old, moved⟩
      apply (zero known).trans (zero knownOther).symm

theorem hasOneBase_start_iff (sound : IsSound s) (now : Nat) :
  HasOneBase (s.perform (.start now)).state ↔ HasOneBase s ∨ Aligns (s, .start now)
  := by
  cases heard : s.lastPacket? with
  | none =>
    have silent : ¬ Aligns (s, .start now) := by
      rintro ⟨last, set, -⟩
      rw [heard] at set
      cases set
    have same : (s.perform (.start now)).state = s := state_start_of_none heard now
    rw [same, or_iff_left silent]
  | some last =>
    have nonneg := outageMicros_nonneg last now
    have moved {id : TrackId} (known : id ∈ s.tracks.keys) :
        (s.perform (.start now)).state.timeline.base id
          = Saturating.add (s.timeline.base id) (outageMicros last now) := by
      rw [base_perform_start heard, if_pos (KeyedList.mem_keys.mp known)]
    rw [HasOneBase, tracks_perform]
    constructor
    · intro same
      by_cases all : ∀ id ∈ s.tracks.keys,
          Saturating.highest ≤ s.timeline.base id + outageMicros last now
      · exact .inr ⟨last, heard, all⟩
      · -- A base that has not passed the largest timestamp is where all the others are.
        push Not at all
        obtain ⟨id, known, low⟩ := all
        have equal {other : TrackId} (knownOther : other ∈ s.tracks.keys) :
            s.timeline.base id = s.timeline.base other := by
          have both := same id known other knownOther
          rw [moved known, moved knownOther, Saturating.add_eq_add_iff (sound.range.base id)
            (sound.range.base other) nonneg] at both
          obtain equal | ⟨high, -⟩ := both
          · apply equal
          · exact absurd high (Int.not_le.mpr low)
        left
        intro other knownOther another knownAnother
        apply (equal knownOther).symm.trans (equal knownAnother)
    · intro either id known other knownOther
      rw [moved known, moved knownOther, Saturating.add_eq_add_iff (sound.range.base id)
        (sound.range.base other) nonneg]
      obtain same | ⟨_, set, all⟩ := either
      · left
        apply same id known other knownOther
      · rw [heard] at set
        cases set
        exact .inr ⟨all id known, all other knownOther⟩

theorem hasOneBase_stop_iff (s : LiveStream) :
  HasOneBase (s.perform .stop).state ↔ HasOneBase s ∨ Aligns (s, .stop)
  := by
  by_cases stopped : s.phase = .stopped
  · have idle : ¬ Aligns (s, .stop) := fun aligns => aligns.1 stopped
    have same : (s.perform .stop).state = s := s.state_stop.trans (if_pos stopped)
    rw [same, or_iff_left idle]
  · have moved {id : TrackId} (known : id ∈ s.tracks.keys) :
        (s.perform .stop).state.timeline.base id
          = (s.timeline.anchor? s.tracks).getD (s.timeline.base id) := by
      rw [base_perform_stop stopped, if_pos (KeyedList.mem_keys.mp known)]
    rw [HasOneBase, tracks_perform]
    cases anchored : s.timeline.anchor? s.tracks with
    | none =>
      have idle : ¬ Aligns (s, .stop) := by
        rintro ⟨-, anchor⟩
        rw [anchored] at anchor
        cases anchor
      rw [or_iff_left idle]
      apply forall₂_congr
      intro id known
      apply forall₂_congr
      intro other knownOther
      rw [moved known, moved knownOther, anchored]
      rfl
    | some anchor =>
      have aligns : Aligns (s, .stop) := ⟨stopped, Option.isSome_of_mem anchored⟩
      apply iff_of_true _ (.inr aligns)
      intro id known other knownOther
      rw [moved known, moved knownOther, anchored]
      rfl

/-- Other calls leave tracks and bases as they are. -/
theorem hasOneBase_iff_of_keeps {call : Call} (bases : call.keepsBases)
    (tracks : (s.perform call).state.tracks = s.tracks) :
  HasOneBase (s.perform call).state ↔ HasOneBase s
  := by
  rw [HasOneBase, tracks]
  simp only [base_perform bases]
  rfl

/-- What a call does to the bases of the tracks, as far as their being one goes. -/
theorem hasOneBase_perform_iff (sound : IsSound s) (call : Call) :
  HasOneBase (s.perform call).state
    ↔ (HasOneBase s ∨ Aligns (s, call)) ∧ ¬ Parts (s, call)
  := by
  cases call with
  | addTrack track =>
    rw [hasOneBase_addTrack_iff sound]
    simp only [Aligns, or_false]
  | start now =>
    rw [hasOneBase_start_iff sound]
    simp only [Parts, not_false_eq_true, and_true]
  | stop =>
    rw [hasOneBase_stop_iff]
    simp only [Parts, not_false_eq_true, and_true]
  | _ =>
    simp only [Aligns, Parts, or_false, not_false_eq_true, and_true]
    exact hasOneBase_iff_of_keeps rfl (s.tracks_perform _)

/-! ### A run -/

/-- After a run the tracks have one base exactly when they had one before it or were brought
together in it, and were brought together again whenever they were parted. -/
theorem hasOneBase_performAll_iff (sound : IsSound s) (calls : List Call) :
  HasOneBase (s.performAll calls)
    ↔ (HasOneBase s ∨ ∃ entry ∈ s.trace calls, Aligns entry)
      ∧ ∀ entry later, entry :: later <:+ s.trace calls → Parts entry →
        ∃ other ∈ later, Aligns other
  := by
  induction calls generalizing s with
  | nil =>
    change HasOneBase s ↔ (_ ∨ ∃ entry ∈ [], _) ∧ ∀ entry later, _ <:+ [] → _
    simp
  | cons call calls ih =>
    have onward := ih (sound.perform call)
    rw [hasOneBase_perform_iff sound call] at onward
    change HasOneBase ((s.perform call).state.performAll calls)
      ↔ (_ ∨ ∃ entry ∈ (s, call) :: (s.perform call).state.trace calls, _)
        ∧ ∀ entry later, _ <:+ (s, call) :: (s.perform call).state.trace calls → _
    -- A suffix of the trace is either all of it, and begins with this call, or lies in the rest.
    simp only [onward, List.suffix_cons_iff, List.exists_mem_cons_iff, List.cons.injEq]
    constructor
    · rintro ⟨either, rest⟩
      constructor
      · obtain ⟨same | aligns, -⟩ | later := either
        · exact .inl same
        · exact .inr (.inl aligns)
        · exact .inr (.inr later)
      · rintro entry later (⟨rfl, rfl⟩ | inside) parts
        · obtain ⟨-, stays⟩ | later := either
          · exact absurd parts stays
          · apply later
        · apply rest entry later inside parts
    · rintro ⟨either, all⟩
      constructor
      · by_cases parts : Parts (s, call)
        · exact .inr (all (s, call) _ (.inl ⟨rfl, rfl⟩) parts)
        · obtain same | aligns | later := either
          · exact .inl ⟨.inl same, parts⟩
          · exact .inl ⟨.inr aligns, parts⟩
          · exact .inr later
      · intro entry later inside
        apply all entry later (.inr inside)

/-- After any run of a new stream, the tracks have one base exactly when every addition of a
track to others that have moved on was followed by a call that brought them together. -/
theorem hasOneBase_iff (descriptor : Descriptor) (settings : Timeline.Settings)
    (calls : List Call) :
  HasOneBase ((ofDescriptor descriptor settings).performAll calls)
    ↔ ∀ entry later, entry :: later <:+ (ofDescriptor descriptor settings).trace calls →
      Parts entry → ∃ other ∈ later, Aligns other
  := by
  have new : HasOneBase (ofDescriptor descriptor settings) := fun _ _ _ _ => rfl
  rw [hasOneBase_performAll_iff (isSound_ofDescriptor descriptor settings)]
  exact and_iff_right (.inl new)

/-- A second track is added after an outage of five seconds. -/
def lateJoiner : List Call :=
  firstPacket ++ [.start 5000000000, .addTrack ⟨⟨1⟩, .video, .rtmp⟩]

/-- The second track is left five seconds behind. -/
theorem not_hasOneBase_lateJoiner :
  ¬ HasOneBase ((ofDescriptor {} {}).performAll lateJoiner)
  := by decide

/-- Closing an epoch with a packet in it brings the tracks together. -/
example : HasOneBase ((ofDescriptor {} {}).performAll
    (lateJoiner ++ [.rebase ⟨0⟩ ⟨0, 0⟩ 1000, .stop]))
  := by decide

end MediaClock.LiveStream
