import CommitGate.Text.Blank

/-!
# Sets of characters

A set of characters is a list of closed ranges of code points, ascending and apart. It also knows
whether the other case of each of its characters is sure to be in it: for characters that were named
one by one nothing is known beyond ASCII.
-/

namespace CommitGate.Pattern

/-- A set of characters. -/
structure CharSet where
  /-- The ranges of its code points. -/
  ranges : List (Nat × Nat) := []
  /-- Whether it is known to hold the other cases of its characters. -/
  isCaseClosed : Bool := true
deriving DecidableEq, Repr

/-- The ranges with one more range. -/
def addRange : (first last : Nat) → List (Nat × Nat) → List (Nat × Nat)
  | first, last, [] => [(first, last)]
  | first, last, (a, b) :: rest =>
    if last + 1 < a then (first, last) :: (a, b) :: rest
    else if b + 1 < first then (a, b) :: addRange first last rest
    else addRange (min first a) (max last b) rest

/-- The greatest code point. -/
def maxCode : Nat := 0x10FFFF

/-- The code point of the next character. Between two characters lie the surrogates. -/
def nextCode (n : Nat) : Nat := if n == 0xD7FF then 0xE000 else n + 1

/-- The code point of the character before. -/
def priorCode (n : Nat) : Nat := if n == 0xE000 then 0xD7FF else n - 1

/-- The range between two code points, in whatever order. -/
def rangeOf (m n : Nat) : Nat × Nat := (min m n, max m n)

/-- What lies behind a range and between those that follow it. Two ranges with nothing but
surrogates between them leave their ends on both sides. -/
def gapsBehind : (last : Nat) → List (Nat × Nat) → List (Nat × Nat)
  | last, [] => if last < maxCode then [(nextCode last, maxCode)] else []
  | last, (a, b) :: rest => rangeOf (nextCode last) (priorCode a) :: gapsBehind b rest

/-- What lies before, between and behind ranges. -/
def gaps : List (Nat × Nat) → List (Nat × Nat)
  | [] => [(0, maxCode)]
  | (a, b) :: rest => if 0 < a then (0, priorCode a) :: gapsBehind b rest else gapsBehind b rest

/-- What two lists of ranges have in common. -/
def meet : List (Nat × Nat) → List (Nat × Nat) → List (Nat × Nat)
  | [], _ | _, [] => []
  | (a, b) :: rs, (c, d) :: ts =>
    let rest := if b < d then meet rs ((c, d) :: ts) else meet ((a, b) :: rs) ts
    if max a c ≤ min b d then (max a c, min b d) :: rest else rest
termination_by rs ts => rs.length + ts.length

/-- The ranges without what other ranges hold. -/
def without : List (Nat × Nat) → List (Nat × Nat) → List (Nat × Nat)
  | [], _ => []
  | rs, [] => rs
  | (a, b) :: rs, (c, d) :: ts =>
    if d < a then without ((a, b) :: rs) ts
    else if b < c then (a, b) :: without rs ((c, d) :: ts)
    else
      let rest :=
        if d < b then without ((nextCode d, b) :: rs) ts else without rs ((c, d) :: ts)
      if a < c then (a, priorCode c) :: rest else rest
termination_by rs ts => rs.length + ts.length

namespace CharSet

/-- The set of no characters. -/
def empty : CharSet := {}

/-- The set with the characters of a range, whose other cases are not looked for. -/
def add (s : CharSet) (first last : Nat) : CharSet :=
  { ranges := addRange first last s.ranges, isCaseClosed := false }

/-- The characters of a range. -/
def ofRange (first last : Nat) : CharSet := empty.add first last

/-- The set of one character. -/
def single (c : Char) : CharSet := ofRange c.toNat c.toNat

/-- The characters of several ranges. -/
def ofRanges (ranges : List (Nat × Nat)) : CharSet :=
  ranges.foldl (fun s r => s.add r.1 r.2) empty

/-- Whether the set holds a character. -/
def contains (s : CharSet) (c : Char) : Bool := Text.inRanges s.ranges c.toNat

/-- Whether the set holds no character. -/
def isEmpty (s : CharSet) : Bool := s.ranges.isEmpty

/-- What is in one of two sets. -/
def union (s t : CharSet) : CharSet :=
  if t.isEmpty || s.ranges == t.ranges then s
  else
    { ranges := t.ranges.foldl (fun all r => addRange r.1 r.2 all) s.ranges
      isCaseClosed := s.isCaseClosed && t.isCaseClosed }

/-- All other characters. -/
def complement (s : CharSet) : CharSet :=
  { ranges := gaps s.ranges, isCaseClosed := s.isEmpty || s.isCaseClosed }

/-- What is in both of two sets. -/
def intersection (s t : CharSet) : CharSet :=
  if s.isEmpty then s
  else if t.isEmpty then empty
  else
    { ranges := meet s.ranges t.ranges
      isCaseClosed := s.isCaseClosed && t.isCaseClosed }

/-- What is in the first of two sets and not in the second. -/
def difference (s t : CharSet) : CharSet :=
  if s.isEmpty || t.isEmpty then s
  else
    { ranges := without s.ranges t.ranges
      isCaseClosed := s.isCaseClosed && t.isCaseClosed }

/-- What is in one of two sets only. -/
def symmetricDifference (s t : CharSet) : CharSet := (s.union t).difference (s.intersection t)

/-- The set with the other cases of its ASCII letters. -/
def withCases (s : CharSet) : CharSet :=
  let shifted (first last : Nat) (shift : Nat → Nat) : List (Nat × Nat) :=
    s.ranges.filterMap fun (a, b) =>
      if max a first ≤ min b last then some (shift (max a first), shift (min b last)) else none
  s.union <| ofRanges (shifted 0x61 0x7A (· - 0x20) ++ shifted 0x41 0x5A (· + 0x20))

end CharSet

end CommitGate.Pattern
