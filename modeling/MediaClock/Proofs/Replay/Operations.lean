import MediaClock.Proofs.Replay.Runs
import MediaClock.Proofs.Stream.Operations
import MediaClock.Proofs.Timeline.Runs

/-!
# What the events of a replay do

Adding a track, a start and a stop dispatch nothing.  A rebased packet of a track with a known
kind of media is dispatched with the clock values that the timeline of the stream gives it, and
the present instant becomes the one of the last packet.
-/

namespace MediaClock.Replay

/-! ### Tracks and sessions -/

/-- The event that adds a track. -/
def trackEvent (track : Track) : Event :=
  .track track.id track.mediaType track.timebase.num track.timebase.den

/-- Adding a track dispatches nothing. -/
theorem apply_trackEvent (r : Replay) (track : Track) :
  r.next (trackEvent track) = { r with stream := r.stream.addTrack track }
    ∧ r.packets (trackEvent track) = []
  := by
  have timebase : Timebase.ofFraction track.timebase.num track.timebase.den
      = .ok track.timebase := dif_pos ⟨track.timebase.num_ne_zero, track.timebase.den_ne_zero⟩
  rw [next, packets, trackEvent, apply, timebase]
  exact ⟨rfl, rfl⟩

theorem packetsOf_map_timeline (notices : List Timeline.Notice) :
  packetsOf (notices.map .timeline) = []
  := by
  rw [packetsOf, List.filterMap_map]
  apply List.filterMap_eq_nil_iff.mpr
  intro notice mem
  rfl

/-- No packet is dispatched at the start of a session. -/
theorem packets_start (r : Replay) :
  r.packets .start = []
  := by
  rw [packets, apply, LiveStream.start]
  split <;> rfl

/-- No packet is dispatched at the end of a session. -/
theorem packets_stop (r : Replay) :
  r.packets .stop = []
  := by
  rw [packets, apply, LiveStream.stop]
  split
  · rfl
  · change packetsOf (List.map id (_ :: List.map _ _ ++ [_])) = []
    rw [List.map_id, packetsOf, List.filterMap_append, List.filterMap_cons]
    change packetsOf _ ++ [] = []
    rw [packetsOf_map_timeline, List.nil_append]

/-! ### Packets -/

/-- A packet for a track of a known kind of media is not defective. -/
theorem defect?_packet {r : Replay} {id : TrackId} {cargo : Cargo}
    (known : r.mediaType id ≠ .unknown) (formatted : cargo.format? ≠ some .unknown)
    (clock : Stamps) :
  (r.packet id clock cargo).defect? = none
  := by
  have typed : (r.packet id clock cargo).type ≠ .unknown := by
    rw [packet]
    split <;> nofun
  have usual : usualFormat (r.mediaType id) ≠ .unknown := by
    cases type : r.mediaType id with
    | unknown => exact absurd type known
    | _ => decide
  have format : (r.packet id clock cargo).format ≠ .unknown := by
    rw [packet]
    cases given : cargo.format? with
    | none => apply usual
    | some format =>
      rintro rfl
      exact formatted given
  rw [Packet.defect?, if_neg typed, if_neg]
  rintro ⟨-, unknown⟩
  exact format unknown

/-- A packet that is not defective comes in, and is handed to the application. -/
theorem ofStream_send {r : Replay} {p : Packet}
    (attached : r.stream.application? = some application) (sound : p.defect? = none) (now : Nat) :
  (r.ofStream (r.stream.send p now)).state
      = { r with stream := { r.stream with lastPacket? := some now } }
    ∧ packetsOf (r.ofStream (r.stream.send p now)).notices = [p]
  := by
  obtain ⟨state, notices⟩ := LiveStream.send_of_attached attached sound now
  constructor
  · change Replay.mk (r.stream.send p now).state _ = _
    rw [state]
  · change packetsOf (List.map id (r.stream.send p now).notices) = _
    rw [notices]
    rfl

/-- Rebasing a packet of a known track changes the timeline and the instant of the last packet,
and dispatches the packet. -/
theorem apply_base {r : Replay} {track : Track} {cargo : Cargo}
    (attached : r.stream.application? = some application)
    (found : r.stream.tracks.find? track.id = some track) (known : track.mediaType ≠ .unknown)
    (formatted : cargo.format? ≠ some .unknown) (raw : Stamps) (modulus : Int) :
  let p : Rebasing := ⟨r.stream.timeline, track, raw, modulus⟩
  r.next (.base track.id raw modulus cargo)
      = { r with stream := { r.stream with timeline := p.after, lastPacket? := some r.now } }
    ∧ r.packets (.base track.id raw modulus cargo) = [r.packet track.id p.emitted cargo]
  := by
  intro p
  let rebased : Replay := { r with stream := { r.stream with timeline := p.after } }
  have media : r.mediaType track.id ≠ .unknown := by
    rw [mediaType, found]
    apply known
  obtain ⟨state, handed⟩ := ofStream_send (r := rebased) attached
    (defect?_packet (r := rebased) media formatted p.emitted) r.now
  have applied : r.apply (.base track.id raw modulus cargo)
      = dispatch track.id cargo ⟨.ok p.emitted, rebased,
        ((r.stream.timeline.rebase track raw modulus).notices.map .timeline).map id⟩ := by
    rw [apply, LiveStream.rebase, LiveStream.onTrack, LiveStream.track, found]
    rfl
  constructor
  · rw [next, applied]
    apply state
  · rw [packets, applied]
    change packetsOf (List.map id _ ++ _) = _
    rw [List.map_id, packetsOf, List.filterMap_append]
    change packetsOf _ ++ packetsOf _ = _
    rw [packetsOf_map_timeline, List.nil_append]
    apply handed

end MediaClock.Replay
