import MediaClock.Step
import MediaClock.Timeline.Notice
import MediaClock.Timeline.Unwrapper

/-!
# Timelines

A timeline turns the raw timestamps of the tracks of one stream into continuous clocks.
There are two ways.

* `rebase` is for raw timestamps that share one domain.  The first decode timestamp of an
  epoch is the epoch's start; a raw value is moved from the start to the base of its
  track, and on by one modulus for each turn of its counter.
* `advance` is for raw timestamps with an origin of no meaning.  It adds the increments
  of the raw values to a running clock.

`bridge` moves the bases on by the length of an outage, and `close` ends an epoch: it moves
the bases to the anchor, the smallest of the last clock values.  A value that a map does
not hold reads as zero.
-/

namespace MediaClock

/-- How a timeline computes, and what it forgets when an epoch is closed. -/
structure Timeline.Settings where
  conversion : Conversion := default
  /-- Whether closing an epoch forgets the turns and origins of counters. -/
  clearWraps : Bool := false
deriving DecidableEq, Repr, Inhabited

/-- The clocks of the tracks of one stream. -/
structure Timeline where
  settings : Timeline.Settings := {}
  /-- The first decode timestamp of the epoch, in microseconds. -/
  start? : Option Int := none
  /-- Where the epoch starts on the clock of each track, in microseconds. -/
  bases : TrackMap Int := ∅
  /-- The last raw value whose increment was taken. -/
  sources : TrackMap Int := ∅
  /-- The last clock value, in microseconds when it comes from `rebase` and in raw units
  when it comes from `advance`. -/
  lasts : TrackMap Int := ∅
  /-- The turns of the counters of presentation timestamps. -/
  pts : Unwrapper := {}
  /-- The turns of the counters of decode timestamps. -/
  dts : Unwrapper := {}
deriving DecidableEq, Inhabited

namespace Timeline

/-- The base of a track in microseconds. -/
def base (t : Timeline) (id : TrackId) : Int := (t.bases.get? id).getD 0

/-- The last clock value of a track. -/
def last? (t : Timeline) (id : TrackId) : Option Int := t.lasts.get? id

/-- The unwrapper of one field. -/
def unwrapper (t : Timeline) : Field → Unwrapper
  | .pts => t.pts
  | .dts => t.dts

/-- The number of turns of one field of a track. -/
def wraps (t : Timeline) (field : Field) (id : TrackId) : Nat := (t.unwrapper field).count id

/-- The base of a track in the timebase of the track. -/
def baseTicks (t : Timeline) (track : Track) : Int :=
  track.timebase.toTicks t.settings.conversion (t.base track.id)

/-! ### Rebasing -/

/-- The start of the epoch in microseconds, which a decode timestamp of a track becomes if
there is none yet. -/
def startFrom (t : Timeline) (track : Track) (dts : Int) : Int :=
  t.start?.getD (track.timebase.toMicros t.settings.conversion dts)

/-- A raw value moved from the start of the epoch to the base of its track. -/
def shift (t : Timeline) (track : Track) (start raw : Int) : Int :=
  Saturating.add (t.baseTicks track)
    (Saturating.sub raw (track.timebase.toTicks t.settings.conversion start))

/-- A value moved on by a number of periods of a modulus. -/
def unwrap (value : Int) (periods : Nat) (modulus : Int) : Int :=
  Saturating.add value (Saturating.mul periods modulus)

/-- The notice of a turn of one field of a track, with the origin that it was seen from. -/
def turnNotices (field : Field) (u : Unwrapper) (id : TrackId) (raw : Int) (turn : Turn) :
    List Notice :=
  (turn.direction?.bind fun direction =>
    (u.origins.get? id).map fun last => .turned field direction id last raw).toList

/-- The clock values of a packet of a track, from its raw timestamps and the modulus of
their counters.  Presentation timestamps may be out of order, so only they can turn back;
the decode timestamp gives the last clock value. -/
def rebase (t : Timeline) (track : Track) (raw : Stamps) (modulus : Int) :
    Step Timeline Notice Stamps :=
  let id := track.id
  let start := t.startFrom track raw.dts
  let ptsTurn := t.pts.turn modulus id raw.pts
  let dtsTurn := (t.dts.turn modulus id raw.dts).onward
  let pts := unwrap (t.shift track start raw.pts) (t.pts.periods id ptsTurn) modulus
  let dts := unwrap (t.shift track start raw.dts) (t.dts.periods id dtsTurn) modulus
  { answer := ⟨pts, dts⟩
    state := { t with
      start? := some start
      lasts := t.lasts.set id (track.timebase.toMicros t.settings.conversion dts)
      pts := t.pts.record id raw.pts ptsTurn
      dts := t.dts.record id raw.dts dtsTurn }
    notices :=
      (if t.start?.isNone then [.epochStarted track raw.dts start] else [])
        ++ turnNotices .pts t.pts id raw.pts ptsTurn
        ++ turnNotices .dts t.dts id raw.dts dtsTurn }

/-! ### Integrating increments -/

/-- Whether a raw value lies in the top hundredth of a percent of a modulus, in floating
point arithmetic. -/
def nearTop (raw modulus : Int) : Bool :=
  Float.ofInt modulus * 99.99 / 100.0 < Float.ofInt raw

/-- The increment of a raw value over the last one of its track.  The first value has none.
A value below the last one has wrapped if the last one was near the top of the modulus;
otherwise the source has started again, and there is no increment. -/
def increment (t : Timeline) (id : TrackId) (raw modulus : Int) : Step Timeline Notice Int :=
  let state := { t with sources := t.sources.set id raw }
  match t.sources.get? id with
  | none => ⟨0, state, [.firstRaw id raw]⟩
  | some last =>
    if last ≤ raw then ⟨Saturating.sub raw last, state, []⟩
    else if nearTop last modulus then
      ⟨Saturating.add (Saturating.sub modulus last) raw, state,
        [.steppedBack .wraparound id last raw]⟩
    else ⟨0, state, [.steppedBack .sourceRestart id last raw]⟩

/-- The running clock of a track, moved on by the increment of a raw value. -/
def advance (t : Timeline) (id : TrackId) (raw modulus : Int) : Step Timeline Notice Int :=
  let step := t.increment id raw modulus
  let clock := Saturating.add ((t.last? id).getD 0) step.answer
  ⟨clock, { step.state with lasts := step.state.lasts.set id clock }, step.notices⟩

/-! ### Outages and epochs -/

/-- The timeline with the bases of a set of tracks moved on by a gap in microseconds. -/
def bridge (t : Timeline) (tracks : TrackSet) (gap : Int) : Timeline :=
  { t with bases := t.bases.update tracks.keys fun base => Saturating.add (base.getD 0) gap }

/-- The smallest last clock value of the tracks of a set. -/
def anchor? (t : Timeline) (tracks : TrackSet) : Option Int :=
  ((t.lasts.restrict tracks.contains).toList.map Prod.snd).min?

/-- The end of an epoch for a set of tracks.  The base of every track of the set, of a
silent one as well, is moved to the anchor, if there is one.  The start of the epoch and
the last raw values are forgotten.  The answer is the anchor. -/
def close (t : Timeline) (tracks : TrackSet) : Step Timeline Notice (Option Int) :=
  let anchor? := t.anchor? tracks
  { answer := anchor?
    state := { t with
      start? := none
      sources := ∅
      bases := match anchor? with
        | none => t.bases
        | some anchor => t.bases.update tracks.keys fun _ => anchor
      pts := if t.settings.clearWraps then {} else t.pts
      dts := if t.settings.clearWraps then {} else t.dts }
    notices := match anchor? with
      | none => []
      | some anchor => tracks.keys.map fun id => .anchored id (t.base id) anchor }

end Timeline

end MediaClock
