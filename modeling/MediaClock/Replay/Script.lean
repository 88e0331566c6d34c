/-!
# Scripts

A script is a sequence of octets, cut into lines behind each line feed.  A carriage return
before a line feed is no part of the line.  Every line is UTF-8 text of its own, so that a
line which is not leaves the lines before it as they are.
-/

namespace MediaClock.Replay.Script

/-- The octet of a line feed. -/
def lineFeed : UInt8 := 0x0a

/-- The octet of a carriage return. -/
def carriageReturn : UInt8 := 0x0d

/-- A line read from its last octet to its first, without a carriage return at its end. -/
def withoutReturn : List UInt8 → List UInt8
  | [] => []
  | octet :: rest => if octet = carriageReturn then rest else octet :: rest

/-- The lines of a sequence of octets, with the line in progress given from its last octet
to its first, and the lines before it likewise. -/
def cut (done : List (List UInt8)) (line : List UInt8) : List UInt8 → List (List UInt8)
  | [] => (if line.isEmpty then done else line.reverse :: done).reverse
  | octet :: rest =>
    if octet = lineFeed then cut ((withoutReturn line).reverse :: done) [] rest
    else cut done (octet :: line) rest

/-- The text of a sequence of octets. -/
def decode? (octets : List UInt8) : Option String :=
  String.fromUTF8? ⟨octets.toArray⟩

/-- The lines of a script; a line that is no text is none. -/
def lines (script : List UInt8) : List (Option String) := (cut [] [] script).map decode?

end MediaClock.Replay.Script
