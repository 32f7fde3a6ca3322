import CommitGate.Pattern.Escape

/-!
# Reading bracketed sets

Between brackets stand characters, ranges, classes, and sets in brackets of their own; two of the
signs for operations part what stands there into operands, taken from the left. A closing bracket
that comes first is a character, and so are minus signs that come first. A set without an end is
reported at the opening of the innermost one.
-/

namespace CommitGate.Pattern

/-- A set that is being read. -/
structure OpenSet where
  span : Span
  /-- Whether all other characters are meant. -/
  negated : Bool
  /-- What stands before the last operation, and the operation. -/
  left : Option (SetTree × SetOperator) := none
  /-- Where the operand that is being read starts. -/
  start : Mark
  /-- The items of that operand, the last one first. -/
  items : List SetTree := []

namespace OpenSet

/-- The set with one more item. -/
def push (s : OpenSet) (item : SetTree) : OpenSet := { s with items := item :: s.items }

/-- The operand that is being read. -/
def operand (s : OpenSet) : SetTree :=
  match s.items, s.items.getLast? with
  | [item], _ => item
  | last :: _, some first =>
    .union { start := first.span.start, stop := last.span.stop } s.items.reverse
  | _, _ => .nothing { start := s.start, stop := s.start }

/-- What stands in the set. -/
def inside (s : OpenSet) : SetTree :=
  match s.left with
  | none => s.operand
  | some (left, operator) =>
    let right := s.operand
    .combined { start := left.span.start, stop := right.span.stop } operator left right

/-- The set with an operation behind what stands in it. -/
def operate (s : OpenSet) (operator : SetOperator) (c : Cursor) : OpenSet :=
  { s with left := some (s.inside, operator), start := c.mark, items := [] }

/-- The fault of a set without an end. -/
def unclosed (s : OpenSet) : Fault := { flaw := .setUnclosed, span := s.span }

end OpenSet

/-- The minus signs that come first in a set. -/
def readMinuses (free : Bool) (start : Mark) :
    Nat → Cursor → List SetTree → Except Fault (List SetTree × Cursor)
  | 0, c, items => .ok (items, c)
  | n + 1, c, items =>
    if !c.sees '-' then .ok (items, c)
    else
      let behind := c.step free
      if behind.atEnd then .error { flaw := .setUnclosed, span := { start, stop := start } }
      else readMinuses free start n behind (.literal { span := c.one, char := '-' } :: items)

/-- The opening of a set. -/
def readOpening (free : Bool) (c : Cursor) : Except Fault (OpenSet × Cursor) :=
  let start := c.mark
  let unclosed (c : Cursor) : Fault := { flaw := .setUnclosed, span := c.since start }
  let first := c.step free
  if first.atEnd then .error (unclosed first)
  else
    let negated := first.sees '^'
    let first := if negated then first.step free else first
    if first.atEnd then .error (unclosed first)
    else
      match readMinuses free start first.rest.length first [] with
      | .error f => .error f
      | .ok (items, c) =>
        if items.isEmpty && c.sees ']' then
          let behind := c.step free
          if behind.atEnd then .error (unclosed behind)
          else
            let items : List SetTree := [.literal { span := c.one, char := ']' }]
            .ok ({ span := behind.since start, negated, start := first.mark, items }, behind)
        else .ok ({ span := c.since start, negated, start := first.mark, items }, c)

/-- A class with a name, if one comes next. -/
def readNamed? (c : Cursor) : Option (SetTree × Cursor) :=
  (c.behind? ['[', ':']).bind fun first =>
    let negated := first.sees '^'
    let first := if negated then first.next else first
    let (name, stop) := first.takeWhile false fun x => x != ':'
    (stop.behind? [':', ']']).bind fun behind =>
      (NamedClass.ofName? (String.ofList name)).map fun name =>
        (.named (behind.since c.mark) negated name, behind)

/-- A smallest part at a character in a set, where only the backslash has a meaning of its own. -/
def readMember (free : Bool) (c : Cursor) (x : Char) : Except Fault (Atom × Cursor) :=
  if x == '\\' then readEscape free c
  else .ok (.literal { span := c.one, char := x }, c.next)

/-- A character, a class or a range at a character in a set. -/
def readItem (free : Bool) (s : OpenSet) (c : Cursor) (x : Char) :
    Except Fault (SetTree × Cursor) :=
  match readMember free c x with
  | .error f => .error f
  | .ok (first, c) =>
    let c := c.skip free
    if c.atEnd then .error s.unclosed
    else if !c.sees '-' || c.peek free == some ']' || c.peek free == some '-' then
      first.toSet.map fun item => (item, c)
    else
      let c := c.step free
      match c.rest with
      | [] => .error s.unclosed
      | y :: _ =>
        match readMember free c y with
        | .error f => .error f
        | .ok (last, c) =>
          match first.toLiteral, last.toLiteral with
          | .error f, _ => .error f
          | _, .error f => .error f
          | .ok first, .ok last =>
            let span : Span := { start := first.span.start, stop := last.span.stop }
            if last.char < first.char then .error { flaw := .rangeOrder, span }
            else .ok (.range span first last, c)

/-- What is left of a set that is being read, up to its end, inside the sets around it. -/
def readSet (free : Bool) :
    Nat → List OpenSet → OpenSet → Cursor → Except Fault (Tree × Cursor)
  | 0, _, s, _ => .error s.unclosed
  | n + 1, outer, s, c =>
    let c := c.skip free
    match c.rest with
    | [] => .error s.unclosed
    | '[' :: _ =>
      match readNamed? c with
      | some (item, c) => readSet free n outer (s.push item) c
      | none =>
        match readOpening free c with
        | .error f => .error f
        | .ok (inner, c) => readSet free n (s :: outer) inner c
    | ']' :: _ =>
      let span := c.next.since s.span.start
      match outer with
      | [] => .ok (.bracketed span s.negated s.inside, c.next)
      | parent :: outer =>
        readSet free n outer (parent.push (.bracketed span s.negated s.inside)) c.next
    | '&' :: '&' :: _ => readSet free n outer (s.operate .intersection c.next.next) c.next.next
    | '-' :: '-' :: _ => readSet free n outer (s.operate .difference c.next.next) c.next.next
    | '~' :: '~' :: _ =>
      readSet free n outer (s.operate .symmetricDifference c.next.next) c.next.next
    | x :: _ =>
      match readItem free s c x with
      | .error f => .error f
      | .ok (item, c) => readSet free n outer (s.push item) c

/-- The bracketed set at its opening bracket. -/
def readBracketed (free : Bool) (c : Cursor) : Except Fault (Tree × Cursor) :=
  match readOpening free c with
  | .error f => .error f
  | .ok (s, c) => readSet free (c.rest.length + 1) [] s c

end CommitGate.Pattern
