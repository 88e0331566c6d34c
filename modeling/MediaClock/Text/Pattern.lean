import MediaClock.Text.Pattern.Reader

/-!
# Patterns

A pattern describes texts: a character stands for itself, and there are sets, groups,
alternatives, repetitions, anchors and escapes.  `isPattern` tells whether a text is a
pattern.

A pattern is about characters, of which no properties are known, unless a flag makes it
one about octets.  So digits, blanks and words, the ends of words, and letters without regard
to case are refused for characters, and what would be part of a character is refused for
octets.  A number of repetitions cannot be given.
-/

namespace MediaClock.Text

/-- Whether a text is a pattern. -/
def isPattern (text : String) : Bool :=
  (Pattern.Reader.readAll {} text.toList).any Pattern.Reader.isComplete

end MediaClock.Text
