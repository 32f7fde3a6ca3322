import CommitGate.Pattern.CharSet

/-!
# Characters as runs of bytes

The characters of a set, written in bytes, are those of some runs of ranges: a character is in the
set if each of its bytes is in the range that stands at its place. A range of code points is cut
where the number of bytes changes, around the surrogates, and wherever the first bytes do not go
with all of the bytes behind them.
-/

namespace CommitGate.Pattern

/-- A closed range of bytes. -/
structure ByteRange where
  first : Nat
  last : Nat
deriving DecidableEq, Repr

/-- The runs for a range of numbers that go into a byte, which counts from a mark on, and into so
many bytes behind it. -/
def spread : (bytes mark first last : Nat) → List (List ByteRange)
  | 0, mark, first, last => [[{ first := mark + first, last := mark + last }]]
  | bytes + 1, mark, first, last =>
    let unit := Nat.pow 64 (bytes + 1)
    let (a, b) := (first / unit, last / unit)
    let (low, high) := (first % unit, last % unit)
    let behind (a b low high : Nat) : List (List ByteRange) :=
      (spread bytes 0x80 low high).map fun run =>
        { first := mark + a, last := mark + b } :: run
    if a == b then behind a b low high
    else
      let start := if low == 0 then a else a + 1
      let stop := if high + 1 == unit then b + 1 else b
      (if low == 0 then [] else behind a a low (unit - 1)) ++
        (if start < stop then behind start (stop - 1) 0 (unit - 1) else []) ++
        (if high + 1 == unit then [] else behind b b 0 high)

/-- The code points that are written alike: the number of bytes behind the first, the mark of the
first, and the closed range of code points. -/
def writings : List (Nat × Nat × Nat × Nat) :=
  [(0, 0x00, 0x00, 0x7F), (1, 0xC0, 0x80, 0x7FF), (2, 0xE0, 0x800, 0xD7FF),
    (2, 0xE0, 0xE000, 0xFFFF), (3, 0xF0, 0x10000, maxCode)]

/-- The runs for a closed range of code points. -/
def runsOfRange (r : Nat × Nat) : List (List ByteRange) :=
  writings.flatMap fun (bytes, mark, first, last) =>
    if max r.1 first ≤ min r.2 last then spread bytes mark (max r.1 first) (min r.2 last) else []

/-- The runs for a set, in ascending order. -/
def CharSet.runs (s : CharSet) : List (List ByteRange) := s.ranges.flatMap runsOfRange

end CommitGate.Pattern
