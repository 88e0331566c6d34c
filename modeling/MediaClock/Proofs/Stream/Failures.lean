import MediaClock.Proofs.Stream.Lifecycle

/-!
# How calls of a stream fail

Whether a call of a stream fails, and with which error, can be told from the stream and the call.
`Lacks` says what is missing in a packet, `TurnsAway` with which error a packet is turned away, and
`Fails` with which error a call fails.  The reasons have an order: a stream without an application
does not look at a packet, an application is not asked about a packet that lacks something, and
nothing is looked at if there is no track for data.

A call that fails has no effect, whatever it has looked at before.  The one exception is a packet
that the application refuses, which has come in all the same.
-/

namespace MediaClock

/-- What is missing in a packet, its type before its format.  A relay packet needs no format. -/
inductive Packet.Lacks (packet : Packet) : PacketDefect → Prop where
  | type (untyped : packet.type = .unknown) : packet.Lacks .untyped
  | format (typed : packet.type ≠ .unknown) (notRelay : packet.type ≠ .relay)
      (unformatted : packet.format = .unknown) : packet.Lacks .unformatted

theorem Packet.defect?_eq_some_iff (packet : Packet) (defect : PacketDefect) :
  packet.defect? = some defect ↔ packet.Lacks defect
  := by
  have isRelay : packet.isRelay ↔ packet.type = .relay := decide_eq_true_iff
  simp only [defect?, isRelay]
  constructor
  · split
    next untyped =>
      rintro ⟨⟩
      apply Lacks.type untyped
    next typed =>
      split
      next unformatted =>
        rintro ⟨⟩
        apply Lacks.format typed unformatted.1 unformatted.2
      · nofun
  · rintro (untyped | ⟨typed, notRelay, unformatted⟩)
    · rw [if_pos untyped]
    · rw [if_neg typed, if_pos ⟨notRelay, unformatted⟩]

/-- A packet that lacks nothing has no defect. -/
theorem Packet.defect?_eq_none_iff (packet : Packet) :
  packet.defect? = none ↔ ∀ defect, ¬ packet.Lacks defect
  := by
  simp only [Option.eq_none_iff_forall_ne_some, Ne, defect?_eq_some_iff]

/-- There is no first track with a kind of media if no track has it. -/
theorem TrackSet.firstOfType?_eq_none_iff {tracks : TrackSet} {mediaType : MediaType} :
  firstOfType? tracks mediaType = none ↔ ∀ track ∈ tracks.toList, track.mediaType ≠ mediaType
  := by
  rw [firstOfType?, List.find?_eq_none]
  simp only [decide_eq_true_eq, Ne]

namespace LiveStream

/-- The track that a call is for, if it is for a single one that the stream has to have. -/
def Call.track? : Call → Option TrackId
  | .rebase id .. | .advance id .. | .increment id .. | .baseTicks id => some id
  | _ => none

/-- With which error a stream turns a packet away. -/
inductive TurnsAway (s : LiveStream) (packet : Packet) : StreamError → Prop where
  | detached (alone : s.application? = none) : s.TurnsAway packet .detachedStream
  | invalid {application : Application} (attached : s.application? = some application)
      {defect : PacketDefect} (lacks : packet.Lacks defect) :
      s.TurnsAway packet (.invalidPacket defect)
  | refused {application : Application} (attached : s.application? = some application)
      (sound : ∀ defect, ¬ packet.Lacks defect) (refuses : ¬ application.accepts packet) :
      s.TurnsAway packet .ingestRejected

/-- With which error a call of a stream fails. -/
inductive Fails (s : LiveStream) : Call → StreamError → Prop where
  | unknownTrack {call : Call} {id : TrackId} (own : call.track? = some id)
      (unknown : ¬ s.tracks.contains id) : s.Fails call (.unknownTrack id)
  | stopped : s.Fails (.setPhase .stopped) (.rejectedTransition s.phase)
  | send {packet : Packet} {now : Nat} {e : StreamError} (turned : s.TurnsAway packet e) :
      s.Fails (.send packet now) e
  | noDataTrack {timestamp : Int} {format : BitstreamFormat} {type : PacketType}
      {payload : Payload} {now : Nat} (missing : ∀ track ∈ s.tracks.toList, track.mediaType ≠ .data) :
      s.Fails (.sendData timestamp format type payload now) .missingDataTrack
  | sendData {timestamp : Int} {format : BitstreamFormat} {type : PacketType} {payload : Payload}
      {now : Nat} {track : Track} {e : StreamError}
      (first : TrackSet.firstOfType? s.tracks .data = some track)
      (turned : s.TurnsAway (s.dataPacket track timestamp format type payload) e) :
      s.Fails (.sendData timestamp format type payload now) e

variable {s : LiveStream} {call : Call} {e : StreamError}

/-! ### When a call fails -/

theorem map_eq_error_iff {α β : Type} {f : α → β} {answer : Except StreamError α} :
  answer.map f = .error e ↔ answer = .error e
  := by
  cases answer <;> simp [Except.map]

theorem track_eq_error_iff (s : LiveStream) (id : TrackId) (e : StreamError) :
  s.track id = .error e ↔ e = .unknownTrack id ∧ ¬ s.tracks.contains id
  := by
  rw [track, KeyedList.contains]
  cases s.tracks.find? id <;> simp [eq_comm]

/-- A call for a track fails if the stream does not have it, and in no other way. -/
theorem fails_iff_of_track? {id : TrackId} (own : call.track? = some id) :
  s.Fails call e ↔ e = .unknownTrack id ∧ ¬ s.tracks.contains id
  := by
  constructor
  · rintro (⟨own', unknown⟩ | _ | _ | _ | _)
    · rw [own] at own'
      cases own'
      exact ⟨rfl, unknown⟩
    all_goals cases own
  · rintro ⟨rfl, unknown⟩
    apply Fails.unknownTrack own unknown

/-- Sending a packet fails when the packet is turned away. -/
theorem send_eq_error_iff (s : LiveStream) (packet : Packet) (now : Nat) (e : StreamError) :
  (s.send packet now).answer = .error e ↔ s.TurnsAway packet e
  := by
  constructor
  · intro failed
    cases attached : s.application? with
    | none =>
      simp only [send, attached] at failed
      cases failed
      apply TurnsAway.detached attached
    | some application =>
      cases checked : packet.defect? with
      | some defect =>
        simp only [send, attached, checked] at failed
        cases failed
        apply TurnsAway.invalid attached ((packet.defect?_eq_some_iff defect).mp checked)
      | none =>
        simp only [send, attached, checked] at failed
        split at failed
        · cases failed
        next refuses =>
          cases failed
          apply TurnsAway.refused attached (packet.defect?_eq_none_iff.mp checked) refuses
  · rintro (alone | ⟨attached, lacks⟩ | ⟨attached, sound, refuses⟩)
    · simp only [send, alone]
    · simp only [send, attached, (packet.defect?_eq_some_iff _).mpr lacks]
    · simp only [send, attached, packet.defect?_eq_none_iff.mpr sound, if_neg refuses]

/-- Sending data is sending the packet with the data for the first data track. -/
theorem perform_sendData {track : Track}
    (first : TrackSet.firstOfType? s.tracks .data = some track) (timestamp : Int)
    (format : BitstreamFormat) (type : PacketType) (payload : Payload) (now : Nat) :
  s.perform (.sendData timestamp format type payload now)
    = s.perform (.send (s.dataPacket track timestamp format type payload) now)
  := by
  simp only [perform, sendData, first]

/-- Sending data fails when there is no track for it, or else when its packet is turned away. -/
theorem sendData_eq_error_iff (s : LiveStream) (timestamp : Int) (format : BitstreamFormat)
    (type : PacketType) (payload : Payload) (now : Nat) (e : StreamError) :
  (s.sendData timestamp format type payload now).answer = .error e
    ↔ s.Fails (.sendData timestamp format type payload now) e
  := by
  rw [sendData]
  constructor
  · intro failed
    cases found : TrackSet.firstOfType? s.tracks .data with
    | none =>
      rw [found] at failed
      cases failed
      apply Fails.noDataTrack (TrackSet.firstOfType?_eq_none_iff.mp found)
    | some track =>
      rw [found] at failed
      apply Fails.sendData found ((s.send_eq_error_iff _ now e).mp failed)
  · rintro (⟨⟨⟩⟩ | _ | _ | missing | ⟨first, turned⟩)
    · rw [TrackSet.firstOfType?_eq_none_iff.mpr missing]
    · rw [first]
      apply (s.send_eq_error_iff _ now e).mpr turned

/-- An operation on a track fails if the stream does not have the track. -/
theorem onTrack_eq_error_iff {α : Type} (s : LiveStream) (id : TrackId)
    (operation : Timeline → Track → Step Timeline Timeline.Notice α) (e : StreamError) :
  (s.onTrack id operation).answer = .error e ↔ e = .unknownTrack id ∧ ¬ s.tracks.contains id
  := by
  rw [answer_onTrack, map_eq_error_iff, track_eq_error_iff]

theorem setPhase_eq_error_iff (s : LiveStream) (next : Phase) (e : StreamError) :
  (s.setPhase next).answer = .error e ↔ s.Fails (.setPhase next) e
  := by
  rw [setPhase]
  constructor
  · split
    next stopped =>
      rintro ⟨⟩
      rw [stopped]
      apply Fails.stopped
    · rintro ⟨⟩
  · rintro (⟨⟨⟩⟩ | _)
    rfl

/-- A call fails with an error exactly when there is the reason for it. -/
theorem perform_eq_error_iff (s : LiveStream) (call : Call) (e : StreamError) :
  (s.perform call).answer = .error e ↔ s.Fails call e
  := by
  cases call with
  | rebase id =>
    rw [fails_iff_of_track? rfl]
    apply map_eq_error_iff.trans (s.onTrack_eq_error_iff id _ e)
  | advance id =>
    rw [fails_iff_of_track? rfl]
    apply map_eq_error_iff.trans (s.onTrack_eq_error_iff id _ e)
  | increment id =>
    rw [fails_iff_of_track? rfl]
    apply map_eq_error_iff.trans (s.onTrack_eq_error_iff id _ e)
  | baseTicks id =>
    rw [fails_iff_of_track? rfl]
    apply map_eq_error_iff.trans (map_eq_error_iff.trans (s.track_eq_error_iff id e))
  | setPhase next => apply map_eq_error_iff.trans (s.setPhase_eq_error_iff next e)
  | send packet now =>
    apply map_eq_error_iff.trans
    rw [send_eq_error_iff]
    constructor
    · apply Fails.send
    · rintro (⟨⟨⟩⟩ | _ | turned)
      apply turned
  | sendData => apply map_eq_error_iff.trans (s.sendData_eq_error_iff _ _ _ _ _ e)
  | _ =>
    constructor
    · nofun
    · rintro ⟨⟨⟩⟩

/-! ### What a failing call leaves behind -/

/-- That a notice is a remark for the log: it neither reports that something has come in, nor hands
a packet over, nor counts. -/
structure Notice.IsRemark (notice : Notice) : Prop where
  ingress : notice.ingress? = none
  packet : notice.packet? = none
  increments : ∀ sink, notice.increments sink = []

/-- That a step on a stream has no effect: the stream is what it was, and there are only remarks. -/
structure IsEffectless {α : Type} (s : LiveStream) (step : Step LiveStream Notice α) : Prop where
  state : step.state = s
  remarks : ∀ notice ∈ step.notices, notice.IsRemark

/-- The stream with an application that takes in every packet. -/
def willing (s : LiveStream) : LiveStream := s.setAcceptance fun _ => true

/-- That a step has the effects of another one, which succeeds with an application that takes in
every packet. -/
structure IsAsAccepted (step accepted : Step LiveStream Notice (Except StreamError Answer)) :
    Prop where
  succeeds : accepted.answer = .ok .done
  state : accepted.state = step.state.willing
  ingress : accepted.notices.filterMap Notice.ingress? = step.notices.filterMap Notice.ingress?
  packets : accepted.notices.filterMap Notice.packet? = step.notices.filterMap Notice.packet?
  increments : ∀ sink, accepted.notices.flatMap (Notice.increments sink)
    = step.notices.flatMap (Notice.increments sink)

theorem isEffectless_silent {α : Type} (s : LiveStream) (answer : α) :
  s.IsEffectless ⟨answer, s, []⟩
  := ⟨rfl, List.forall_mem_nil _⟩

theorem isEffectless_remark {α : Type} (s : LiveStream) (answer : α) {notice : Notice}
    (remark : notice.IsRemark) :
  s.IsEffectless ⟨answer, s, [notice]⟩
  := ⟨rfl, List.forall_mem_singleton.mpr remark⟩

/-- An operation on a track that the stream does not have only answers. -/
theorem onTrack_of_unknown {α : Type} {id : TrackId} (unknown : ¬ s.tracks.contains id)
    (operation : Timeline → Track → Step Timeline Timeline.Notice α) :
  s.onTrack id operation = ⟨.error (.unknownTrack id), s, []⟩
  := by
  have missing : s.track id = .error (.unknownTrack id) :=
    (s.track_eq_error_iff id _).mpr ⟨rfl, unknown⟩
  rw [onTrack, missing]

/-- A packet that is turned away, but not by the application, has no effect. -/
theorem TurnsAway.isEffectless {packet : Packet} (turned : s.TurnsAway packet e)
    (unasked : e ≠ .ingestRejected) (now : Nat) :
  s.IsEffectless (s.send packet now)
  := by
  cases turned with
  | detached alone =>
    simp only [send, alone]
    apply isEffectless_silent
  | invalid attached lacks =>
    simp only [send, attached, (packet.defect?_eq_some_iff _).mpr lacks]
    apply isEffectless_remark
    exact ⟨rfl, rfl, fun _ => rfl⟩
  | refused => exact absurd rfl unasked

/-- A call that fails has no effect, unless it is the application that refuses a packet. -/
theorem isEffectless_of_fails (fails : s.Fails call e) (unasked : e ≠ .ingestRejected) :
  s.IsEffectless (s.perform call)
  := by
  cases fails with
  | unknownTrack own unknown =>
    cases call with
    | rebase id =>
      cases own
      rw [perform, rebase, onTrack_of_unknown unknown]
      apply isEffectless_silent
    | advance id =>
      cases own
      rw [perform, advance, onTrack_of_unknown unknown]
      apply isEffectless_silent
    | increment id =>
      cases own
      rw [perform, increment, onTrack_of_unknown unknown]
      apply isEffectless_silent
    | baseTicks id => apply isEffectless_silent
    | _ => cases own
  | stopped =>
    rw [perform_setPhase_stopped]
    apply isEffectless_silent
  | send turned => exact { turned.isEffectless unasked _ with }
  | noDataTrack missing =>
    rw [perform, sendData, TrackSet.firstOfType?_eq_none_iff.mpr missing]
    apply isEffectless_remark
    exact ⟨rfl, rfl, fun _ => rfl⟩
  | sendData first turned =>
    rw [perform_sendData first]
    exact { turned.isEffectless unasked _ with }

/-- A packet that the application refuses has come in as if it were accepted. -/
theorem TurnsAway.isAsAccepted {packet : Packet} (turned : s.TurnsAway packet .ingestRejected)
    (now : Nat) :
  IsAsAccepted (s.perform (.send packet now)) (s.willing.perform (.send packet now))
  := by
  cases turned with
  | @refused application attached sound =>
    have checked := packet.defect?_eq_none_iff.mpr sound
    have attached' : s.willing.application? = some { application with accepts := fun _ => true } :=
      congrArg (Option.map _) attached
    simp only [perform, send, attached, attached', checked]
    exact ⟨rfl, rfl, rfl, rfl, fun _ => rfl⟩

/-- If it is the application that refuses a packet, the call has done what it would do if the
packet were accepted. -/
theorem isAsAccepted_of_fails (fails : s.Fails call .ingestRejected) :
  IsAsAccepted (s.perform call) (s.willing.perform call)
  := by
  cases fails with
  | send turned => apply turned.isAsAccepted
  | @sendData _ _ _ _ _ track _ first turned =>
    have first' : TrackSet.firstOfType? s.willing.tracks .data = some track := first
    rw [perform_sendData first, perform_sendData first']
    apply turned.isAsAccepted

/-- A call fails with an error exactly when there is the reason for it.  If it is the application
that refuses a packet, the call has done what it would do if the packet were accepted; any other
call that fails has no effect. -/
theorem failures_effectless (s : LiveStream) (call : Call) (e : StreamError) :
  ((s.perform call).answer = .error e ↔ s.Fails call e)
    ∧ ((s.perform call).answer = .error e →
      if e = .ingestRejected then IsAsAccepted (s.perform call) (s.willing.perform call)
      else s.IsEffectless (s.perform call))
  := by
  constructor
  · apply perform_eq_error_iff
  · intro failed
    have fails := (s.perform_eq_error_iff call e).mp failed
    split
    next refused =>
      rw [refused] at fails
      apply isAsAccepted_of_fails fails
    next unasked => apply isEffectless_of_fails fails unasked

end LiveStream

end MediaClock
