import MediaClock.Timeline.Basic

/-!
# Runs of a timeline

The operations of a timeline as data, so that a run is a list of calls.
-/

namespace MediaClock.Timeline

/-- An operation of a timeline with its arguments. -/
inductive Call where
  | rebase (track : Track) (raw : Stamps) (modulus : Int)
  | advance (id : TrackId) (raw modulus : Int)
  | increment (id : TrackId) (raw modulus : Int)
  | bridge (tracks : TrackSet) (gap : Int)
  | close (tracks : TrackSet)
deriving DecidableEq

/-- What an operation answers. -/
inductive Answer where
  | stamps (s : Stamps)
  | clock (n : Int)
  | anchor (a : Option Int)
  | done
deriving DecidableEq

/-- One operation. -/
def perform (t : Timeline) : Call → Step Timeline Notice Answer
  | .rebase track raw modulus => (t.rebase track raw modulus).answering .stamps
  | .advance id raw modulus => (t.advance id raw modulus).answering .clock
  | .increment id raw modulus => (t.increment id raw modulus).answering .clock
  | .bridge tracks gap => ⟨.done, t.bridge tracks gap, []⟩
  | .close tracks => (t.close tracks).answering .anchor

/-- The steps of a run, one for each call. -/
def run (t : Timeline) : List Call → List (Step Timeline Notice Answer)
  | [] => []
  | call :: calls =>
    let step := t.perform call
    step :: step.state.run calls

end MediaClock.Timeline
