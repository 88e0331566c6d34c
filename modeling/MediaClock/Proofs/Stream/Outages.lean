import MediaClock.Proofs.Stream.Epochs

/-!
# How much of an outage is bridged

A start moves the bases on by the time since the last packet, and nothing remembers that it has
done so.  A stream that is started several times in one outage moves on every time, and each
time by all of the outage so far.
-/

namespace MediaClock.LiveStream

variable {s : LiveStream} {call : Call} {calls : List Call} {id : TrackId} {last : Nat}

/-- The outage that a call bridges, in whole microseconds. -/
def outage? : LiveStream × Call → Option ℕ
  | (s, .start now) => s.lastPacket?.map fun last => (now - last) / 1000
  | _ => none

/-- The outages that are bridged in a run, in order. -/
def outages (s : LiveStream) (calls : List Call) : List ℕ := (s.trace calls).filterMap outage?

/-- The instant of a start. -/
def Call.start? : Call → Option Nat
  | .start now => some now
  | _ => none

/-- The instants at which a stream is started, in order. -/
def starts (calls : List Call) : List Nat := calls.filterMap Call.start?

/-- Whether a call hands a packet to an application. -/
def dispatches (entry : LiveStream × Call) : Bool :=
  (entry.1.perform entry.2).notices.any fun notice => notice.packet?.isSome

/-- That neither the outage that a call bridges nor the base of a track after it is too large
for a timestamp. -/
def IsBridgeable (id : TrackId) (entry : LiveStream × Call) : Prop :=
  ∀ outage ∈ outage? entry,
    Saturating.Fits outage ∧ Saturating.Fits (entry.1.timeline.base id + outage)

instance (id : TrackId) : DecidablePred (IsBridgeable id) := fun entry =>
  inferInstanceAs (Decidable (∀ _ ∈ outage? entry, _))

/-! ### Bases -/

/-- Within an epoch, a call moves the base of a track on by the outage that it bridges. -/
theorem base_perform_of_bridgeable (known : s.tracks.contains id)
    (stays : ¬ endsEpoch (s, call)) (fits : IsBridgeable id (s, call)) :
  (s.perform call).state.timeline.base id = s.timeline.base id + ((outage? (s, call)).getD 0 : ℕ)
  := by
  cases call with
  | start now =>
    cases heard : s.lastPacket? with
    | none =>
      have same : (s.perform (.start now)).state = s := state_start_of_none heard now
      rw [same, outage?, heard]
      exact (add_zero _).symm
    | some last =>
      have bridged : outage? (s, .start now) = some ((now - last) / 1000) := by
        rw [outage?, heard, Option.map_some]
      obtain ⟨⟨-, short⟩, fits⟩ := fits _ bridged
      rw [base_perform_start heard, if_pos known, bridged, Option.getD_some, outageMicros,
        min_eq_left short, Saturating.add, Saturating.clamp_of_fits fits]
  | stop =>
    have same : (s.perform .stop).state = s :=
      s.state_stop.trans (if_pos (stopped_of_not_ends stays))
    rw [same]
    exact (add_zero _).symm
  | _ => exact (base_perform rfl id).trans (add_zero _).symm

theorem outages_cons (s : LiveStream) (call : Call) (calls : List Call) :
  s.outages (call :: calls)
    = (outage? (s, call)).toList ++ (s.perform call).state.outages calls
  := MediaClock.filterMap_trace_cons _ _ _ _ _

/-- Within an epoch, a run moves the base of a track on by the outages that it bridges. -/
theorem base_performAll_of_bridgeable (known : s.tracks.contains id)
    (stays : ∀ entry ∈ s.trace calls, ¬ endsEpoch entry)
    (fits : ∀ entry ∈ s.trace calls, IsBridgeable id entry) :
  (s.performAll calls).timeline.base id = s.timeline.base id + ((s.outages calls).sum : ℕ)
  := by
  induction calls generalizing s with
  | nil => exact (add_zero _).symm
  | cons call calls ih =>
    obtain ⟨staysFirst, staysRest⟩ := List.forall_mem_cons.mp stays
    obtain ⟨fitsFirst, fitsRest⟩ := List.forall_mem_cons.mp fits
    apply (ih (contains_perform known call) staysRest fitsRest).trans
    rw [base_perform_of_bridgeable known staysFirst fitsFirst, outages_cons, List.sum_append]
    cases outage? (s, call) <;> simp [add_assoc]

/-! ### Outages -/

theorem lastPacket?_send {packet : Packet} {now : Nat}
    (silent : ¬ (s.send packet now).notices.any fun notice => notice.packet?.isSome) :
  (s.send packet now).state.lastPacket? = s.lastPacket?
  := by
  cases attached : s.application? with
  | none => simp only [send, attached]
  | some application =>
    cases checked : packet.defect? with
    | some defect => simp only [send, attached, checked]
    | none =>
      rw [(send_of_attached attached checked now).2] at silent
      exact absurd rfl silent

/-- The instant of the last packet stands until another one is dispatched. -/
theorem lastPacket?_perform (silent : ¬ dispatches (s, call)) :
  (s.perform call).state.lastPacket? = s.lastPacket?
  := by
  cases call with
  | start now =>
    change (s.start now).state.lastPacket? = _
    rw [start]
    split <;> rfl
  | stop =>
    change s.stop.state.lastPacket? = _
    rw [stop]
    split <;> rfl
  | rebase id => apply congrArg lastPacket? (s.state_onTrack id _)
  | advance id => apply congrArg lastPacket? (s.state_onTrack id _)
  | increment id => apply congrArg lastPacket? (s.state_onTrack id _)
  | setPhase next =>
    change (s.setPhase next).state.lastPacket? = _
    rw [setPhase]
    split <;> rfl
  | send packet now => apply lastPacket?_send silent
  | sendData timestamp format type payload now =>
    change ¬ (s.sendData timestamp format type payload now).notices.any _ at silent
    change (s.sendData timestamp format type payload now).state.lastPacket? = _
    rw [sendData] at silent ⊢
    cases found : TrackSet.firstOfType? s.tracks .data with
    | none => rfl
    | some track =>
      rw [found] at silent
      apply lastPacket?_send silent
  | _ => rfl

theorem outage?_of_heard (heard : s.lastPacket? = some last) (call : Call) :
  outage? (s, call) = call.start?.map fun now => (now - last) / 1000
  := by
  cases call with
  | start now => rw [outage?, heard, Call.start?, Option.map_some, Option.map_some]
  | _ => rfl

/-- Without another packet, all outages of a run begin with the last one. -/
theorem outages_of_silent (heard : s.lastPacket? = some last)
    (silent : ∀ entry ∈ s.trace calls, ¬ dispatches entry) :
  s.outages calls = (starts calls).map fun now => (now - last) / 1000
  := by
  induction calls generalizing s with
  | nil => rfl
  | cons call calls ih =>
    obtain ⟨first, rest⟩ := List.forall_mem_cons.mp silent
    rw [outages_cons, ih ((lastPacket?_perform first).trans heard) rest, outage?_of_heard heard,
      starts, starts, List.filterMap_cons]
    cases call.start? <;> rfl

/-- Let a stream be started in an outage, any number of times.  Then every start moves the bases
on by all of the outage so far.  So altogether they move on by the outage, as the last start
finds it, exactly when none of the other starts has come a microsecond or more after the last
packet. -/
theorem bridged_once_iff (s : LiveStream) {last : Nat} (heard : s.lastPacket? = some last)
    (calls : List Call) (silent : ∀ entry ∈ s.trace calls, ¬ dispatches entry)
    (stays : ∀ entry ∈ s.trace calls, ¬ endsEpoch entry) {latest : Nat}
    (started : (starts calls).getLast? = some latest) (id : TrackId)
    (known : s.tracks.contains id) (fits : ∀ entry ∈ s.trace calls, IsBridgeable id entry) :
  (s.performAll calls).timeline.base id - s.timeline.base id
      = (((starts calls).map fun now => (now - last) / 1000).sum : ℕ)
    ∧ ((s.performAll calls).timeline.base id - s.timeline.base id = ((latest - last) / 1000 : ℕ)
      ↔ ∀ now ∈ (starts calls).dropLast, now < last + 1000)
  := by
  have growth : (s.performAll calls).timeline.base id - s.timeline.base id
      = (((starts calls).map fun now => (now - last) / 1000).sum : ℕ) := by
    rw [base_performAll_of_bridgeable known stays fits, outages_of_silent heard silent]
    apply add_sub_cancel_left
  have split : starts calls = (starts calls).dropLast ++ [latest] :=
    (List.dropLast_append_getLast? latest started).symm
  constructor
  · apply growth
  · -- The last summand is what is asked for, so the others have to add up to nothing.
    rw [growth, Nat.cast_inj, split, List.dropLast_concat, List.map_append, List.sum_append,
      List.map_singleton, List.sum_singleton, Nat.add_eq_right, List.sum_eq_zero_iff_forall_eq_nat]
    simp only [List.forall_mem_map]
    apply forall₂_congr
    intro now _
    omega

/-- A start within a microsecond of the last packet bridges nothing, and the next one the rest. -/
theorem bridged_once_quickStart :
  let s := (ofDescriptor {} {}).performAll firstPacket
  let calls := [.start 500, .setPhase .playing, .start 2000000000]
  (s.performAll calls).timeline.base ⟨0⟩ - s.timeline.base ⟨0⟩ = (2000000000 / 1000 : ℕ)
  := by
  intro s calls
  have growth :=
    bridged_once_iff s rfl calls (by decide) (by decide) rfl ⟨0⟩ (by decide) (by decide)
  apply growth.2.mpr
  decide

/-- A stream that is started one second and two seconds after its last packet is moved on by
three seconds. -/
theorem not_bridged_once_secondStart :
  let s := (ofDescriptor {} {}).performAll firstPacket
  let calls := [.start 1000000000, .start 2000000000]
  s.lastPacket? = some 0
    ∧ (∀ entry ∈ s.trace calls, ¬ dispatches entry ∧ ¬ endsEpoch entry)
    ∧ s.tracks.contains ⟨0⟩
    ∧ (∀ entry ∈ s.trace calls, IsBridgeable ⟨0⟩ entry)
    ∧ (s.performAll calls).timeline.base ⟨0⟩ - s.timeline.base ⟨0⟩ ≠ (2000000000 / 1000 : ℕ)
    ∧ (2000000000 / 1000 : ℕ) < (s.performAll calls).timeline.base ⟨0⟩ - s.timeline.base ⟨0⟩
  := by decide

end MediaClock.LiveStream
