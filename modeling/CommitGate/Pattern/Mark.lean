/-!
# Places in the text of a pattern

A place is counted in lines and in characters of the line. What stands between two places is a
span.
-/

namespace CommitGate.Pattern

/-- A place in a text, its line and the column in that line, both counted from one on. -/
structure Mark where
  line : Nat := 1
  column : Nat := 1
deriving DecidableEq, Repr

namespace Mark

/-- The place behind a character that stands at a place. -/
def after (m : Mark) (c : Char) : Mark :=
  if c == '\n' then { line := m.line + 1 } else { m with column := m.column + 1 }

/-- Whether a place comes before another. -/
def before (m n : Mark) : Bool :=
  m.line < n.line || (m.line == n.line && m.column < n.column)

end Mark

/-- What stands between two places. -/
structure Span where
  start : Mark
  stop : Mark
deriving DecidableEq, Repr

namespace Span

/-- Whether the span starts and stops in one line. -/
def isOneLine (s : Span) : Bool := s.start.line == s.stop.line

/-- Whether a span comes before another one. -/
def before (s t : Span) : Bool :=
  s.start.before t.start || (s.start == t.start && s.stop.before t.stop)

end Span

end CommitGate.Pattern
