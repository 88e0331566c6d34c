import MediaClock.Main
import MediaClock.Stream.Call
import MediaClock.Stream.Inspect
import MediaClock.Timeline.Call
import MediaClock.Proofs.Rounding
import MediaClock.Proofs.Odometer
import MediaClock.Proofs.Trace
import MediaClock.Proofs.Tally
import MediaClock.Proofs.Timeline.Operations
import MediaClock.Proofs.Timeline.Runs
import MediaClock.Proofs.Timeline.Unwrapping
import MediaClock.Proofs.Timeline.Alignment
import MediaClock.Proofs.Timeline.Clock
import MediaClock.Proofs.Stream.Operations
import MediaClock.Proofs.Stream.Bases
import MediaClock.Proofs.Stream.Epochs
import MediaClock.Proofs.Stream.Monotone
import MediaClock.Proofs.Timeline.History
import MediaClock.Proofs.Conversion
import MediaClock.Proofs.Timeline.Drift
import MediaClock.Proofs.Timeline.Anchor
import MediaClock.Proofs.Timeline.Resumption
import MediaClock.Proofs.Replay.Runs
import MediaClock.Proofs.Replay.Deck
import MediaClock.Proofs.Replay.Sessions
import MediaClock.Proofs.Timeline.Integration
import MediaClock.Proofs.Timeline.Jumps
import MediaClock.Proofs.Stream.CommonBase
import MediaClock.Proofs.Stream.Outages
import MediaClock.Proofs.Timeline.Entries
import MediaClock.Proofs.Stream.Entries
import MediaClock.Proofs.Timeline.Interleaving
import MediaClock.Proofs.Stream.Lifecycle
import MediaClock.Proofs.Replay.Anchors
import MediaClock.Proofs.Timeline.Discontinuities
import MediaClock.Proofs.Timeline.Fractions
import MediaClock.Proofs.Stream.Failures
import MediaClock.Proofs.Stream.Deliveries
import MediaClock.Proofs.RoundTrip
import MediaClock.Proofs.WideWords
import MediaClock.Proofs.Timeline.Ticks
import MediaClock.Proofs.Timeline.Attempts
import MediaClock.Proofs.Replay.Failures
import MediaClock.Proofs.Stream.Directory
import MediaClock.Proofs.Names
import MediaClock.Proofs.Variables
import MediaClock.Proofs.Json.Tokens
import MediaClock.Proofs.Json.Layout
import MediaClock.Proofs.Json.Records
import MediaClock.Proofs.Codec
