import MediaClock.Stream.Live

/-!
# What the operations of a stream do to its timeline

An operation on a known track is one of the timeline.  Sending a packet leaves the timeline
alone, and a start moves its bases on, if it does anything to it.
-/

namespace MediaClock.LiveStream

/-- An operation on a track changes the timeline of a stream and nothing else. -/
theorem state_onTrack {α : Type} (s : LiveStream) (id : TrackId)
    (operation : Timeline → Track → Step Timeline Timeline.Notice α) :
  (s.onTrack id operation).state
    = { s with
        timeline :=
          (s.tracks.find? id).elim s.timeline fun track => (operation s.timeline track).state }
  := by
  rw [onTrack, LiveStream.track]
  cases s.tracks.find? id <;> rfl

theorem state_onTrack_of_find? {α : Type} {s : LiveStream} {id : TrackId} {track : Track}
    (known : s.tracks.find? id = some track)
    (operation : Timeline → Track → Step Timeline Timeline.Notice α) :
  (s.onTrack id operation).state = { s with timeline := (operation s.timeline track).state }
  := by
  rw [state_onTrack, known]
  rfl

theorem answer_onTrack {α : Type} (s : LiveStream) (id : TrackId)
    (operation : Timeline → Track → Step Timeline Timeline.Notice α) :
  (s.onTrack id operation).answer
    = (s.track id).map fun track => (operation s.timeline track).answer
  := by
  rw [onTrack]
  cases s.track id <;> rfl

/-- Sending a packet changes the instant of the last packet of a stream and nothing else. -/
theorem state_send (s : LiveStream) (packet : Packet) (now : Nat) :
  (s.send packet now).state = { s with lastPacket? := (s.send packet now).state.lastPacket? }
  := by
  rw [send]
  split
  · rfl
  · split <;> rfl

theorem state_sendData (s : LiveStream) (timestamp : Int) (format : BitstreamFormat)
    (type : PacketType) (payload : Payload) (now : Nat) :
  (s.sendData timestamp format type payload now).state
    = { s with
        lastPacket? := (s.sendData timestamp format type payload now).state.lastPacket? }
  := by
  rw [sendData]
  split
  · rfl
  · apply state_send

/-- A packet that is not defective comes in, and is handed to the application. -/
theorem send_of_attached {s : LiveStream} {application : Application}
    (attached : s.application? = some application) {packet : Packet}
    (sound : packet.defect? = none) (now : Nat) :
  (s.send packet now).state = { s with lastPacket? := some now }
    ∧ (s.send packet now).notices
      = [.ingress s.descriptor.id s.descriptor.source packet.length,
        .delivered application packet]
  := by
  constructor <;> simp only [send, attached, sound]

theorem outageMicros_nonneg (last now : Nat) :
  0 ≤ outageMicros last now
  := by
  apply Int.le_min.mpr
  constructor
  · apply Int.natCast_nonneg
  · decide

/-- Bridging the outage before an instant moves the bases on, if there was a packet. -/
theorem timeline_start (s : LiveStream) (now : Nat) :
  (s.start now).state.timeline = s.timeline
    ∨ ∃ gap, 0 ≤ gap ∧ (s.start now).state.timeline = s.timeline.bridge s.tracks gap
  := by
  rw [start]
  split
  · exact .inl rfl
  · exact .inr ⟨_, outageMicros_nonneg _ _, rfl⟩

/-- A start before the first packet leaves the stream as it is. -/
theorem state_start_of_none {s : LiveStream} (unheard : s.lastPacket? = none) (now : Nat) :
  (s.start now).state = s
  := by
  rw [start, unheard]

/-- A start after a packet bridges the outage since then. -/
theorem state_start_of_some {s : LiveStream} {last : Nat} (heard : s.lastPacket? = some last)
    (now : Nat) :
  (s.start now).state
    = { s with timeline := s.timeline.bridge s.tracks (outageMicros last now) }
  := by
  simp only [start, heard]

/-- A stop closes the epoch of a stream that is not stopped. -/
theorem state_stop (s : LiveStream) :
  s.stop.state = if s.phase = .stopped then s
    else { s with phase := .stopped, timeline := (s.timeline.close s.tracks).state }
  := by
  rw [stop]
  split <;> rfl

end MediaClock.LiveStream
