import MediaClock.Proofs.Stream.Failures
import MediaClock.Proofs.Stream.Outages
import MediaClock.Proofs.Tally

/-!
# Deliveries and ingress

A call that sends something delivers one packet, to the application that the stream has at that
moment, or fails and delivers none.  Ingress is noticed with every delivery and at no other time.
So what comes in during a run, as the journal has it and as the counters have it, can be read off
the deliveries of the run, and so can the instant of the last packet.
-/

namespace MediaClock.LiveStream

/-- A packet that is handed to an application at an instant. -/
structure Delivery where
  application : Application
  packet : Packet
  instant : Nat

/-- What a run notices, in order. -/
def notices (s : LiveStream) (calls : List Call) : List Notice :=
  (s.run calls).flatMap Step.notices

/-- What a stream notices of a delivery. -/
def report (s : LiveStream) (d : Delivery) : List Notice :=
  [.ingress s.descriptor.id s.descriptor.source d.packet.length, .delivered d.application d.packet]

variable {s : LiveStream} {call : Call} {notices : List Notice} {made : List Delivery}

/-! ### Dispatches -/

/-- What a sink that keeps a journal records in a run. -/
def journal (s : LiveStream) (calls : List Call) : List (StreamId × Nat) :=
  (s.notices calls).filterMap Notice.ingress?

/-- What is counted in a run, with a sink that counts. -/
def tally (s : LiveStream) (calls : List Call) : Tally :=
  ⟨(s.notices calls).flatMap (Notice.increments .counters)⟩

end MediaClock.LiveStream
