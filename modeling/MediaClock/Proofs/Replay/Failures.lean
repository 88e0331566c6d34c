import MediaClock.Proofs.Replay.Anchors
import MediaClock.Proofs.Replay.Operations
import MediaClock.Proofs.Stream.Failures
import MediaClock.Proofs.Timeline.Interleaving

/-!
# How lines of a script fail

Whether a line of a script fails, and with which error, can be told from the line and the tracks
of the stream: the line is no event, its timebase has a component that is zero, it is for a track
that the stream does not have, or its packet would have no format.

In the last case the track has been given its clock values before the packet is turned away, and
it keeps them.  A line that fails in another way changes nothing at all.
-/

namespace MediaClock.Replay

/-! ### Events with a packet -/

/-- How an event with a packet goes about it: the call of the stream that gives its track the clock
values, and the payload that is dispatched with them. -/
structure Timing where
  track : TrackId
  call : LiveStream.Call
  cargo : Cargo

/-- How an event goes about its packet, if it has one. -/
def timing? : Event → Option Timing
  | .base track raw modulus cargo => some ⟨track, .rebase track raw modulus, cargo⟩
  | .delta track raw modulus cargo => some ⟨track, .advance track raw modulus, cargo⟩
  | _ => none

/-- The format that a payload is given on a track. -/
def formatOn (track : Track) (cargo : Cargo) : BitstreamFormat :=
  cargo.format?.getD (usualFormat track.mediaType)

/-- With which error a line of a script fails. -/
inductive Fails (r : Replay) (line : String) : Error → Prop where
  | unreadable (worded : ¬ Text.isBlank line) (noEvent : Event.ofLine? line = none) :
      r.Fails line .unreadable
  | zeroTimebase {id : TrackId} {mediaType : MediaType} {num den : UInt32}
      (read : event? line = some (.track id mediaType num den)) (zero : num = 0 ∨ den = 0) :
      r.Fails line (.zeroTimebase ⟨num, den⟩)
  | unknownTrack {event : Event} {timing : Timing} (read : event? line = some event)
      (timed : timing? event = some timing) (unknown : ¬ r.stream.tracks.contains timing.track) :
      r.Fails line (.stream (.unknownTrack timing.track))
  | unformatted {event : Event} {timing : Timing} {track : Track}
      (read : event? line = some event) (timed : timing? event = some timing)
      (known : r.stream.tracks.find? timing.track = some track)
      (unformatted : formatOn track timing.cargo = .unknown) :
      r.Fails line (.stream (.invalidPacket .unformatted))

/-- That a replay is as it was before, but for clocks of its timeline. -/
structure KeepsAllButClocks (before after : Replay) : Prop where
  elapsed : after.elapsed = before.elapsed
  descriptor : after.stream.descriptor = before.stream.descriptor
  application : after.stream.application? = before.stream.application?
  phase : after.stream.phase = before.stream.phase
  lastPacket : after.stream.lastPacket? = before.stream.lastPacket?
  settings : after.stream.timeline.settings = before.stream.timeline.settings
  bases : after.stream.timeline.bases = before.stream.timeline.bases

/-- That a replay differs from what it was before exactly by the call of the stream that gives the
track of an event its clock values.  The entries of other tracks are what they were. -/
structure IsLeftBy (before after : Replay) (timing : Timing) : Prop where
  answered : (before.stream.perform timing.call).answer.isOk
  state : after = { before with stream := (before.stream.perform timing.call).state }
  others : ∀ other, other ≠ timing.track →
    { after.stream.timeline.only other with start? := before.stream.timeline.start? }
      = before.stream.timeline.only other

variable {r : Replay} {line : String} {event : Event} {timing : Timing} {track : Track}

/-! ### Streams with an application -/

/-- The application of a replay is never gone. -/
theorem application?_next (r : Replay) (event : Event) :
  (r.next event).stream.application? = r.stream.application?
  := by
  have dispatched (track : TrackId) (cargo : Cargo)
      (step : Step Replay LiveStream.Notice (Except Error Stamps)) :
      (dispatch track cargo step).state.stream.application?
        = step.state.stream.application? := by
    obtain ⟨answer, r, notices⟩ := step
    cases answer with
    | error e => rfl
    | ok clock => apply congrArg LiveStream.application? (r.stream.state_send _ _)
  cases event with
  | track id mediaType num den =>
    rw [next, apply]
    cases Timebase.ofFraction num den <;> rfl
  | start =>
    change (r.stream.start r.now).state.application? = _
    rw [LiveStream.start]
    split <;> rfl
  | stop =>
    change r.stream.stop.state.application? = _
    rw [LiveStream.state_stop]
    split <;> rfl
  | base id raw modulus cargo =>
    rw [next, apply, dispatched]
    apply congrArg LiveStream.application? (r.stream.state_onTrack id _)
  | delta id raw modulus cargo =>
    rw [next, apply, dispatched]
    apply congrArg LiveStream.application? (r.stream.state_onTrack id _)
  | sleep => rfl

theorem application?_played (settings : Timeline.Settings) (lines : List String) :
  (played settings lines).stream.application? = some application
  := by
  rw [played_eq]
  induction lines.filterMap event? using List.reverseRecOn with
  | nil => rfl
  | append_singleton events event ih =>
    rw [nextAll_concat, application?_next]
    apply ih

/-! ### What an event with a packet does -/

/-- An event for a track that the stream does not have only answers. -/
theorem apply_of_unknown (timed : timing? event = some timing)
    (unknown : ¬ r.stream.tracks.contains timing.track) :
  r.apply event = ⟨.error (.stream (.unknownTrack timing.track)), r, []⟩
  := by
  cases event with
  | base =>
    cases timed
    rw [apply, LiveStream.rebase, LiveStream.onTrack_of_unknown unknown]
    rfl
  | delta =>
    cases timed
    rw [apply, LiveStream.advance, LiveStream.onTrack_of_unknown unknown]
    rfl
  | _ => cases timed

/-- A track of the stream is given its clock values, and then the packet is sent with them. -/
theorem apply_of_known (timed : timing? event = some timing)
    (known : r.stream.tracks.find? timing.track = some track) :
  let r' := { r with stream := (r.stream.perform timing.call).state }
  ∃ stamps notices, packetsOf notices = [] ∧
    let sent := r'.ofStream (r'.stream.send (r'.packet timing.track stamps timing.cargo) r.now)
    r.apply event = { sent with notices := notices ++ sent.notices }
  := by
  have found : r.stream.track timing.track = .ok track := by rw [LiveStream.track, known]
  cases event with
  | base id raw modulus =>
    cases timed
    let step := r.stream.timeline.rebase track raw modulus
    use step.answer, step.notices.map .timeline, packetsOf_map_timeline _
    rw [apply, LiveStream.perform, LiveStream.rebase, LiveStream.onTrack, found,
      ← List.map_id (step.notices.map _)]
    rfl
  | delta id raw modulus =>
    cases timed
    let step := r.stream.timeline.advance id raw modulus
    use ⟨step.answer, step.answer⟩, step.notices.map .timeline, packetsOf_map_timeline _
    rw [apply, LiveStream.perform, LiveStream.advance, LiveStream.onTrack, found,
      ← List.map_id (step.notices.map _)]
    rfl
  | _ => cases timed

/-- A track of the stream is given its clock values by a call of the timeline for this track, which
stays within the epoch. -/
theorem perform_timing (timed : timing? event = some timing)
    (known : r.stream.tracks.find? timing.track = some track) :
  (r.stream.perform timing.call).answer.isOk
    ∧ ∃ call : Timeline.Call, call.track? = some timing.track ∧ call.keepsEpoch
      ∧ (r.stream.perform timing.call).state
        = { r.stream with timeline := (r.stream.timeline.perform call).state }
  := by
  have contained : r.stream.tracks.contains timing.track := Option.isSome_of_mem known
  cases event with
  | base id raw modulus =>
    cases timed
    constructor
    · exact (r.stream.isOk_onTrack id _ _).trans contained
    · use .rebase track raw modulus, congrArg some (KeyedList.key_of_find? known), rfl
      change (r.stream.rebase id raw modulus).state = _
      rw [LiveStream.rebase, LiveStream.state_onTrack_of_find? known]
      rfl
  | delta id raw modulus =>
    cases timed
    constructor
    · exact (r.stream.isOk_onTrack id _ _).trans contained
    · use .advance id raw modulus, rfl, rfl
      change (r.stream.advance id raw modulus).state = _
      rw [LiveStream.advance, LiveStream.state_onTrack_of_find? known]
      rfl
  | _ => cases timed

/-- Giving a track its clock values keeps the application and the track. -/
theorem kept_by_timing (attached : r.stream.application? = some application)
    (timed : timing? event = some timing)
    (known : r.stream.tracks.find? timing.track = some track) :
  (r.stream.perform timing.call).state.application? = some application
    ∧ (r.stream.perform timing.call).state.tracks.find? timing.track = some track
  := by
  obtain ⟨-, call, -, -, state⟩ := perform_timing timed known
  rw [state]
  exact ⟨attached, known⟩

/-! ### Packets that are turned away -/

theorem mediaType_of_known {id : TrackId} (known : r.stream.tracks.find? id = some track) :
  r.mediaType id = track.mediaType
  := by rw [mediaType, known]

/-- The packet of an event lacks nothing but a format. -/
theorem lacks_packet_iff {id : TrackId} {cargo : Cargo}
    (known : r.stream.tracks.find? id = some track) (stamps : Stamps) (defect : PacketDefect) :
  (r.packet id stamps cargo).Lacks defect
    ↔ defect = .unformatted ∧ formatOn track cargo = .unknown
  := by
  have format : (r.packet id stamps cargo).format = formatOn track cargo := by
    rw [packet, mediaType_of_known known]
    rfl
  have typed : (r.packet id stamps cargo).type ≠ .unknown
      ∧ (r.packet id stamps cargo).type ≠ .relay := by
    rw [packet]
    constructor <;> split <;> intro same <;> cases same
  constructor
  · rintro (untyped | ⟨-, -, unformatted⟩)
    · exact absurd untyped typed.1
    · exact ⟨rfl, format ▸ unformatted⟩
  · rintro ⟨rfl, unformatted⟩
    exact .format typed.1 typed.2 (format.trans unformatted)

/-- The packet of an event is turned away for its format, if it is turned away. -/
theorem turnsAway_packet_iff {id : TrackId} {cargo : Cargo}
    (attached : r.stream.application? = some application)
    (known : r.stream.tracks.find? id = some track) (stamps : Stamps) (e : StreamError) :
  r.stream.TurnsAway (r.packet id stamps cargo) e
    ↔ e = .invalidPacket .unformatted ∧ formatOn track cargo = .unknown
  := by
  constructor
  · rintro (alone | ⟨-, lacks⟩ | ⟨asked, -, refuses⟩)
    · rw [attached] at alone
      cases alone
    · obtain ⟨rfl, unformatted⟩ := (lacks_packet_iff known stamps _).mp lacks
      exact ⟨rfl, unformatted⟩
    · rw [attached] at asked
      cases asked
      exact absurd rfl refuses
  · rintro ⟨rfl, unformatted⟩
    exact .invalid attached ((lacks_packet_iff known stamps _).mpr ⟨rfl, unformatted⟩)

/-- An event with a packet for a track of the stream fails if the packet has no format. -/
theorem apply_eq_error_iff_of_known (attached : r.stream.application? = some application)
    (timed : timing? event = some timing)
    (known : r.stream.tracks.find? timing.track = some track) (e : Error) :
  (r.apply event).answer = .error e
    ↔ e = .stream (.invalidPacket .unformatted) ∧ formatOn track timing.cargo = .unknown
  := by
  obtain ⟨attached', known'⟩ := kept_by_timing attached timed known
  obtain ⟨stamps, notices, -, applied⟩ := apply_of_known timed known
  let r' := { r with stream := (r.stream.perform timing.call).state }
  rw [applied]
  change (r'.stream.send _ _).answer.mapError Error.stream = .error e ↔ _
  constructor
  · intro failed
    cases sent : (r'.stream.send (r'.packet timing.track stamps timing.cargo) r.now).answer with
    | ok =>
      rw [sent] at failed
      cases failed
    | error e' =>
      rw [sent] at failed
      cases failed
      obtain ⟨rfl, unformatted⟩ := (turnsAway_packet_iff attached' known' stamps e').mp
        ((r'.stream.send_eq_error_iff _ _ _).mp sent)
      exact ⟨rfl, unformatted⟩
  · rintro ⟨rfl, unformatted⟩
    rw [(r'.stream.send_eq_error_iff _ _ _).mpr
      ((turnsAway_packet_iff attached' known' stamps _).mpr ⟨rfl, unformatted⟩)]
    rfl

/-! ### When a line fails -/

/-- A line that is an event is carried out as the event. -/
theorem applyLine_of_event? (read : event? line = some event) :
  r.applyLine line = r.apply event
  := by
  rw [event?] at read
  split at read
  · cases read
  next worded => rw [applyLine, if_neg worded, read]

theorem ofFraction_eq_error_iff (num den : UInt32) (e : ZeroComponent) :
  Timebase.ofFraction num den = .error e ↔ e = ⟨num, den⟩ ∧ (num = 0 ∨ den = 0)
  := by
  rw [Timebase.ofFraction]
  split
  next nonzero => simp [nonzero.1, nonzero.2]
  next zero =>
    have zero : num = 0 ∨ den = 0 := by
      by_contra both
      exact zero ⟨fun h => both (.inl h), fun h => both (.inr h)⟩
    simp [zero, eq_comm]

/-- An event without a packet fails if it adds a track with a component that is zero. -/
theorem apply_eq_error_iff_of_untimed (untimed : timing? event = none) (e : Error) :
  (r.apply event).answer = .error e
    ↔ ∃ id mediaType num den, event = .track id mediaType num den ∧ (num = 0 ∨ den = 0)
      ∧ e = .zeroTimebase ⟨num, den⟩
  := by
  cases event with
  | track id mediaType num den =>
    rw [apply]
    constructor
    · cases made : Timebase.ofFraction num den with
      | ok =>
        intro failed
        cases failed
      | error e' =>
        obtain ⟨rfl, zero⟩ := (ofFraction_eq_error_iff num den e').mp made
        rintro ⟨⟩
        exact ⟨id, mediaType, num, den, rfl, zero, rfl⟩
    · rintro ⟨_, _, _, _, ⟨⟩, zero, rfl⟩
      rw [(ofFraction_eq_error_iff num den _).mpr ⟨rfl, zero⟩]
  | base => cases untimed
  | delta => cases untimed
  | _ =>
    constructor
    · intro failed
      cases failed
    · rintro ⟨_, _, _, _, ⟨⟩, -⟩

/-- An event fails with an error exactly when a line that is the event does. -/
theorem apply_eq_error_iff (attached : r.stream.application? = some application)
    (read : event? line = some event) (e : Error) :
  (r.apply event).answer = .error e ↔ r.Fails line e
  := by
  have worded : ¬ Event.ofLine? line = none := by
    intro noEvent
    rw [event?, noEvent, ite_self] at read
    cases read
  constructor
  · intro failed
    cases timed : timing? event with
    | none =>
      obtain ⟨id, mediaType, num, den, rfl, zero, rfl⟩ :=
        (apply_eq_error_iff_of_untimed timed e).mp failed
      exact .zeroTimebase read zero
    | some timing =>
      cases known : r.stream.tracks.find? timing.track with
      | none =>
        have unknown : ¬ r.stream.tracks.contains timing.track := by
          rw [KeyedList.contains, known]
          apply Bool.false_ne_true
        rw [apply_of_unknown timed unknown] at failed
        cases failed
        exact .unknownTrack read timed unknown
      | some track =>
        obtain ⟨rfl, unformatted⟩ := (apply_eq_error_iff_of_known attached timed known e).mp failed
        exact .unformatted read timed known unformatted
  · intro fails
    cases fails with
    | unreadable _ noEvent => exact absurd noEvent worded
    | zeroTimebase read' zero =>
      cases read.symm.trans read'
      exact (apply_eq_error_iff_of_untimed rfl _).mpr ⟨_, _, _, _, rfl, zero, rfl⟩
    | unknownTrack read' timed unknown =>
      cases read.symm.trans read'
      rw [apply_of_unknown timed unknown]
    | unformatted read' timed known unformatted =>
      cases read.symm.trans read'
      exact (apply_eq_error_iff_of_known attached timed known _).mpr ⟨rfl, unformatted⟩

/-- A line fails with an error exactly when there is the reason for it. -/
theorem applyLine_eq_error_iff (attached : r.stream.application? = some application)
    (line : String) (e : Error) :
  (r.applyLine line).answer = .error e ↔ r.Fails line e
  := by
  cases read : event? line with
  | some event =>
    rw [applyLine_of_event? read]
    exact apply_eq_error_iff attached read e
  | none =>
    -- A line that is no event is blank, and then it succeeds, or it cannot be read.
    have fails : r.Fails line e ↔ ¬ Text.isBlank line ∧ e = .unreadable := by
      constructor
      · intro fails
        cases fails with
        | unreadable worded => exact ⟨worded, rfl⟩
        | zeroTimebase read' => cases read.symm.trans read'
        | unknownTrack read' => cases read.symm.trans read'
        | unformatted read' => cases read.symm.trans read'
      · rintro ⟨worded, rfl⟩
        rw [event?, if_neg worded] at read
        exact .unreadable worded read
    rw [fails, applyLine]
    split
    next blank => simp [blank]
    next worded =>
      rw [event?, if_neg worded] at read
      simp [read, worded, eq_comm]

/-! ### What a failing line leaves behind -/

/-- A line that fails otherwise than by its packet changes nothing, and there is nothing to
notice. -/
theorem applyLine_of_fails {e : Error} (fails : r.Fails line e)
    (sound : ∀ defect, e ≠ .stream (.invalidPacket defect)) :
  r.applyLine line = ⟨.error e, r, []⟩
  := by
  cases fails with
  | unreadable worded noEvent => rw [applyLine, if_neg worded, noEvent]
  | zeroTimebase read zero =>
    rw [applyLine_of_event? read, apply, (ofFraction_eq_error_iff _ _ _).mpr ⟨rfl, zero⟩]
  | unknownTrack read timed unknown =>
    rw [applyLine_of_event? read, apply_of_unknown timed unknown]
  | unformatted => exact absurd rfl (sound _)

/-- A line whose packet has no format has given the track its clock values, and that is all. -/
theorem applyLine_of_unformatted (attached : r.stream.application? = some application)
    (read : event? line = some event) (timed : timing? event = some timing)
    (known : r.stream.tracks.find? timing.track = some track)
    (unformatted : formatOn track timing.cargo = .unknown) :
  (r.applyLine line).state = { r with stream := (r.stream.perform timing.call).state }
    ∧ packetsOf (r.applyLine line).notices = []
  := by
  obtain ⟨attached', known'⟩ := kept_by_timing attached timed known
  obtain ⟨stamps, notices, silent, applied⟩ := apply_of_known timed known
  let r' := { r with stream := (r.stream.perform timing.call).state }
  have turned : r'.stream.TurnsAway (r'.packet timing.track stamps timing.cargo)
      (.invalidPacket .unformatted) :=
    (turnsAway_packet_iff attached' known' stamps _).mpr ⟨rfl, unformatted⟩
  obtain ⟨unmoved, remarks⟩ := turned.isEffectless (by nofun) r.now
  rw [applyLine_of_event? read, applied]
  constructor
  · change Replay.mk (r'.stream.send _ _).state _ = _
    rw [unmoved]
  · change packetsOf (notices ++ List.map id _) = []
    rw [List.map_id, packetsOf, List.filterMap_append]
    change packetsOf notices ++ packetsOf _ = []
    rw [silent, List.nil_append]
    apply List.filterMap_eq_nil_iff.mpr
    intro notice mem
    exact (remarks notice mem).packet

theorem keepsAllButClocks_refl (r : Replay) :
  r.KeepsAllButClocks r
  := ⟨rfl, rfl, rfl, rfl, rfl, rfl, rfl⟩

/-- Giving a track of the stream its clock values changes clocks, and of these only the ones of the
track. -/
theorem isLeftBy_timing (timed : timing? event = some timing)
    (known : r.stream.tracks.find? timing.track = some track) {after : Replay}
    (state : after = { r with stream := (r.stream.perform timing.call).state }) :
  r.KeepsAllButClocks after ∧ r.IsLeftBy after timing
  := by
  obtain ⟨answered, call, own, keeps, performed⟩ := perform_timing timed known
  have stream : after.stream
      = { r.stream with timeline := (r.stream.timeline.perform call).state } := by
    rw [state, performed]
  constructor
  · constructor
    · rw [state]
    · rw [stream]
    · rw [stream]
    · rw [stream]
    · rw [stream]
    · rw [stream]
      apply Timeline.settings_perform
    · rw [stream]
      apply Timeline.bases_perform keeps
  · constructor
    · apply answered
    · apply state
    · intro other ne
      rw [stream]
      apply Timeline.only_perform_but_start keeps
      rw [own]
      exact fun same => ne (Option.some.inj same).symm

/-- How a line fails after any lines of a script, and what that leaves behind.  It fails with an
error exactly when there is the reason for it.  No packet is dispatched then, and all but the
clocks is as it was.  If the packet of the line has no format, the replay is left as the call that
gives the track its clock values leaves it; if the line fails in another way, the replay is what it
was.  A blank line succeeds and changes nothing. -/
theorem failing_line_keeps_all_but_clocks (settings : Timeline.Settings) (lines : List String)
    (line : String) :
  let r := played settings lines
  let step := r.applyLine line
  (∀ e, step.answer = .error e ↔ r.Fails line e)
    ∧ (∀ e, step.answer = .error e →
      packetsOf step.notices = [] ∧ r.KeepsAllButClocks step.state
        ∧ if e = .stream (.invalidPacket .unformatted) then
            ∃ event timing, event? line = some event ∧ timing? event = some timing
              ∧ r.IsLeftBy step.state timing
          else step.state = r)
    ∧ (Text.isBlank line → step = ⟨.ok (), r, []⟩)
  := by
  intro r step
  have attached : r.stream.application? = some application := application?_played settings lines
  have failure (e : Error) : step.answer = .error e ↔ r.Fails line e :=
    applyLine_eq_error_iff attached line e
  use failure
  constructor
  · intro e failed
    have fails := (failure e).mp failed
    split
    next unformatted =>
      subst unformatted
      cases fails with
      | unformatted read timed known unformatted =>
        obtain ⟨state, silent⟩ := applyLine_of_unformatted attached read timed known unformatted
        obtain ⟨keeps, left⟩ := isLeftBy_timing timed known state
        exact ⟨silent, keeps, _, _, read, timed, left⟩
    next formatted =>
      have unmoved : step = ⟨.error e, r, []⟩ := by
        apply applyLine_of_fails fails
        rintro defect rfl
        cases fails
        exact formatted rfl
      rw [unmoved]
      exact ⟨rfl, keepsAllButClocks_refl r, rfl⟩
  · intro blank
    exact if_pos blank

/-- Video without a packet so far. -/
def newVideo : List String := ["[\"track\",0,\"video\",1,1000]"]

/-- A packet of the video that is said to have no format. -/
def unformattedLine : String := "[\"base\",0,520,500,9000,\"unknown\"]"

/-- The packet is not dispatched, but its track has been given the clock value zero. -/
theorem failing_line_keeps_all_but_clocks_unformatted :
  let r := played exactly newVideo
  let step := r.applyLine unformattedLine
  step.answer = .error (.stream (.invalidPacket .unformatted))
    ∧ packetsOf step.notices = []
    ∧ r.KeepsAllButClocks step.state
    ∧ r.stream.timeline.last? ⟨0⟩ = none ∧ step.state.stream.timeline.last? ⟨0⟩ = some 0
  := by
  intro r step
  have read : newVideo.filterMap event? = [.track ⟨0⟩ .video 1 1000] := by decide +kernel
  have read' : event? unformattedLine
      = some (.base ⟨0⟩ ⟨520, 500⟩ 9000 { format? := some .unknown }) := by
    decide +kernel
  have reached : r = (ofSettings exactly).nextAll [.track ⟨0⟩ .video 1 1000] := by
    rw [← read, ← played_eq]
  have carried : step = r.apply (.base ⟨0⟩ ⟨520, 500⟩ 9000 { format? := some .unknown }) :=
    applyLine_of_event? read'
  obtain ⟨-, leaves, -⟩ := failing_line_keeps_all_but_clocks exactly newVideo unformattedLine
  have failed : step.answer = .error (.stream (.invalidPacket .unformatted)) := by
    rw [carried, reached]
    decide +kernel
  obtain ⟨silent, keeps, -⟩ := leaves _ failed
  refine ⟨failed, silent, keeps, ?_, ?_⟩
  · rw [reached]
    decide +kernel
  · rw [carried, reached]
    decide +kernel

end MediaClock.Replay
