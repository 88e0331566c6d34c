import MediaClock.Stream.Live

/-!
# Runs of a stream

The operations of a stream as data, so that a run is a list of calls.
-/

namespace MediaClock.LiveStream

/-- An operation of a stream with its arguments. -/
inductive Call where
  | addTrack (track : Track)
  | start (now : Nat)
  | stop
  | terminate
  | setPhase (next : Phase)
  | rebase (id : TrackId) (raw : Stamps) (modulus : Int)
  | advance (id : TrackId) (raw modulus : Int)
  | increment (id : TrackId) (raw modulus : Int)
  | baseTicks (id : TrackId)
  | send (packet : Packet) (now : Nat)
  | sendData (timestamp : Int) (format : BitstreamFormat) (type : PacketType)
      (payload : Payload) (now : Nat)
  | attach (application : Application)
  | detach
  | setAcceptance (accepts : Packet → Bool)
  | setRequestedUrl (url : Option String)
  | setFinalUrl (url : Option String)

/-- What an operation answers. -/
inductive Answer where
  | done
  | stamps (s : Stamps)
  | clock (n : Int)
deriving DecidableEq

/-- An operation that answers nothing and notices nothing. -/
private def quietly (s : LiveStream) : Step LiveStream Notice (Except StreamError Answer) :=
  ⟨.ok .done, s, []⟩

/-- One operation. -/
def perform (s : LiveStream) : Call → Step LiveStream Notice (Except StreamError Answer)
  | .addTrack track => quietly (s.addTrack track)
  | .start now => (s.start now).answering fun _ => .ok .done
  | .stop => s.stop.answering fun _ => .ok .done
  | .terminate => s.terminate.answering fun _ => .ok .done
  | .setPhase next => (s.setPhase next).answering (·.map fun _ => .done)
  | .rebase id raw modulus => (s.rebase id raw modulus).answering (·.map .stamps)
  | .advance id raw modulus => (s.advance id raw modulus).answering (·.map .clock)
  | .increment id raw modulus => (s.increment id raw modulus).answering (·.map .clock)
  | .baseTicks id => ⟨(s.baseTicks id).map .clock, s, []⟩
  | .send packet now => (s.send packet now).answering (·.map fun _ => .done)
  | .sendData timestamp format type payload now =>
    (s.sendData timestamp format type payload now).answering (·.map fun _ => .done)
  | .attach application => quietly (s.attach application)
  | .detach => quietly s.detach
  | .setAcceptance accepts => quietly (s.setAcceptance accepts)
  | .setRequestedUrl url => quietly (s.setRequestedUrl url)
  | .setFinalUrl url => quietly (s.setFinalUrl url)

/-- The steps of a run, one for each call. -/
def run (s : LiveStream) : List Call → List (Step LiveStream Notice (Except StreamError Answer))
  | [] => []
  | call :: calls =>
    let step := s.perform call
    step :: step.state.run calls

end MediaClock.LiveStream
