import MediaClock.Proofs.Trace
import MediaClock.Replay.Program

/-!
# What a replay dispatches

A script whose lines are text, each of them an event or blank, is replayed by carrying out its
events one after another.  What is printed are the packets that the stream hands to its
application in the course of this.
-/

namespace MediaClock.Replay

/-- The replay after an event. -/
def next (r : Replay) (event : Event) : Replay := (r.apply event).state

/-- The packets among the notices of a stream. -/
def packetsOf (notices : List LiveStream.Notice) : List Packet :=
  notices.filterMap LiveStream.Notice.packet?

/-- The packets that an event dispatches. -/
def packets (r : Replay) (event : Event) : List Packet := packetsOf (r.apply event).notices

/-- The events of a script, each with the replay that it is carried out in. -/
def trace (r : Replay) (events : List Event) : List (Replay × Event) :=
  MediaClock.trace next r events

/-- The packets that some events dispatch. -/
def dispatched (r : Replay) (events : List Event) : List Packet := outputs next packets r events

/-- The packets that the legs of a script dispatch, leg by leg. -/
def dispatchedByLeg (r : Replay) (legs : List (List Event)) : List (List Packet) :=
  outputsByLeg next packets r legs

/-- The events that the lines of a script are.  Blank lines are passed over. -/
def events? : List (Option String) → Option (List Event)
  | [] => some []
  | none :: _ => none
  | some line :: rest =>
    if Text.isBlank line then events? rest
    else do return (← Event.ofLine? line) :: (← events? rest)

/-- The notices of a line print the packets that it dispatches; a failure prints nothing. -/
theorem printed_lineNotices (number : Nat) (step : Outcome) :
  (lineNotices number step).filterMap Notice.printed?
    = (packetsOf step.notices).map packetLine
  := by
  have noticed : (step.notices.map Notice.stream).filterMap Notice.printed?
      = (packetsOf step.notices).map packetLine := by
    rw [packetsOf, List.filterMap_map, List.map_filterMap]
    rfl
  rw [lineNotices, List.filterMap_append, noticed]
  cases step.answer with
  | ok => apply List.append_nil
  | error => apply List.append_nil

/-- A run over the lines of a script carries out its events, and prints what they dispatch. -/
theorem run_of_events? {lines : List (Option String)} {events : List Event}
    (read : events? lines = some events) (r : Replay) (number : Nat) :
  (r.run number lines).answer = true
    ∧ (r.run number lines).notices.filterMap Notice.printed?
      = (r.dispatched events).map packetLine
  := by
  induction lines generalizing r number events with
  | nil =>
    cases read
    exact ⟨rfl, rfl⟩
  | cons line rest ih =>
    cases line with
    | none => cases read
    | some line =>
      rw [events?] at read
      by_cases blank : Text.isBlank line
      · rw [if_pos blank] at read
        have idle : r.applyLine line = ⟨.ok (), r, []⟩ := if_pos blank
        rw [run, idle]
        apply ih read
      · rw [if_neg blank] at read
        obtain ⟨event, spelt, read⟩ := Option.bind_eq_some_iff.mp read
        obtain ⟨later, readLater, same⟩ := Option.bind_eq_some_iff.mp read
        obtain rfl : event :: later = events := Option.some.inj same
        have carried : r.applyLine line = r.apply event := by
          rw [applyLine, if_neg blank, spelt]
        obtain ⟨answer, printed⟩ := ih readLater (r.next event) (number + 1)
        rw [run, carried]
        constructor
        · apply answer
        · change (lineNotices number (r.apply event) ++ _).filterMap _ = _
          rw [List.filterMap_append, printed_lineNotices]
          change _ ++ ((r.next event).run (number + 1) rest).notices.filterMap _ = _
          rw [printed, ← List.map_append]
          rfl

/-- The program prints the packets that the events of its script dispatch, leg by leg. -/
theorem replay_of_events? {script : List UInt8} (legs : List (List Event))
    (read : events? (Script.lines script) = some legs.flatten) (options : Program.Options)
    (settings : Settings) :
  (Program.replay options settings script).failure? = none
    ∧ (Program.replay options settings script).packets
      = ((ofSettings settings.clock).dispatchedByLeg legs).flatten.map packetLine
  := by
  obtain ⟨answer, printed⟩ := run_of_events? read (ofSettings settings.clock) 1
  rw [Program.replay, if_pos answer]
  constructor
  · rfl
  · apply printed.trans
    rw [dispatchedByLeg, flatten_outputsByLeg]
    rfl

end MediaClock.Replay
