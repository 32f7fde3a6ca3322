import CommitGate.Pattern.Fault
import CommitGate.Pattern.Parts

/-!
# What the parts of a pattern mean

The tree of a pattern is turned into a pattern, from the left to the right. Flags are for what
follows them in their group. Of characters beyond ASCII only their order is known, so classes with a
letter, properties and the cases of characters are refused as long as characters are those of
Unicode. Where they are bytes, what could match a byte that is no whole character is refused.
-/

namespace CommitGate.Pattern

/-- The flags that are set for a part. -/
structure Mode where
  /-- Upper and lower case count as the same. -/
  caseless : Bool := false
  /-- Anchors of lines stand at every line. -/
  multiline : Bool := false
  /-- The dot stands for line feeds too. -/
  dotAll : Bool := false
  /-- Repetitions are short where they would be long. -/
  lazySwap : Bool := false
  /-- Characters are those of Unicode, and not bytes. -/
  unicode : Bool := true
  /-- Lines end with a return, a line feed, or both. -/
  returns : Bool := false
deriving DecidableEq, Repr

/-- The flags after items. -/
def Mode.set (m : Mode) (items : List FlagItem) : Mode :=
  { caseless := (flagState? .caseless items).getD m.caseless
    multiline := (flagState? .multiline items).getD m.multiline
    dotAll := (flagState? .dotAll items).getD m.dotAll
    lazySwap := (flagState? .lazySwap items).getD m.lazySwap
    unicode := (flagState? .unicode items).getD m.unicode
    returns := (flagState? .returns items).getD m.returns }

/-- The fault of a part. -/
def failure {α : Type} (flaw : Flaw) (span : Span) : Except Fault α := .error { flaw, span }

/-! ### Sets -/

/-- The characters of a class with a name. -/
def NamedClass.ranges : NamedClass → List (Nat × Nat)
  | alnum => [(0x30, 0x39), (0x41, 0x5A), (0x61, 0x7A)]
  | alpha => [(0x41, 0x5A), (0x61, 0x7A)]
  | ascii => [(0x00, 0x7F)]
  | blank => [(0x09, 0x09), (0x20, 0x20)]
  | cntrl => [(0x00, 0x1F), (0x7F, 0x7F)]
  | digit => [(0x30, 0x39)]
  | graph => [(0x21, 0x7E)]
  | lower => [(0x61, 0x7A)]
  | print => [(0x20, 0x7E)]
  | punct => [(0x21, 0x2F), (0x3A, 0x40), (0x5B, 0x60), (0x7B, 0x7E)]
  | space => [(0x09, 0x0D), (0x20, 0x20)]
  | upper => [(0x41, 0x5A)]
  | word => [(0x30, 0x39), (0x41, 0x5A), (0x5F, 0x5F), (0x61, 0x7A)]
  | xdigit => [(0x30, 0x39), (0x41, 0x46), (0x61, 0x66)]

/-- The class with a name that a class with a letter is where characters are bytes. -/
def ShorthandKind.name : ShorthandKind → NamedClass
  | digit => .digit
  | space => .space
  | word => .word

/-- A set with the other cases of its characters, if cases count as the same. -/
def CharSet.fold (m : Mode) (span : Span) (s : CharSet) : Except Fault CharSet :=
  if !m.caseless then .ok s
  else if !m.unicode then .ok s.withCases
  else if s.isCaseClosed then .ok s
  else failure .casesUnknown span

/-- A set as it is meant: with other cases, or all other characters. -/
def CharSet.settle (m : Mode) (span : Span) (negated : Bool) (s : CharSet) : Except Fault CharSet :=
  match s.fold m span with
  | .error f => .error f
  | .ok s =>
    if negated && !m.unicode then failure .notText span
    else .ok (if negated then s.complement else s)

/-- The set of a class with a letter. -/
def Shorthand.set (m : Mode) (s : Shorthand) : Except Fault CharSet :=
  if m.unicode then failure .shorthandUnknown s.span
  else if s.negated then failure .notText s.span
  else .ok (.ofRanges s.kind.name.ranges)

/-- The flaw of a property. -/
def propertyFlaw (m : Mode) : Flaw := if m.unicode then .propertyUnknown else .notBytes

/-- The code point of a character in a set. -/
def Literal.code (m : Mode) (l : Literal) : Except Fault Nat :=
  if m.unicode || l.char.toNat < 0x80 then .ok l.char.toNat
  else failure (if l.isByte then .notText else .notBytes) l.span

/-- What an operation makes of two sets. -/
def SetOperator.apply : SetOperator → CharSet → CharSet → CharSet
  | intersection => CharSet.intersection
  | difference => CharSet.difference
  | symmetricDifference => CharSet.symmetricDifference

mutual

/-- The set with what a tree adds to it. -/
def SetTree.addTo (m : Mode) : SetTree → CharSet → Except Fault CharSet
  | .nothing _, s => .ok s
  | .literal l, s => (l.code m).map fun n => s.add n n
  | .range _ first last, s =>
    match first.code m, last.code m with
    | .error f, _ => .error f
    | _, .error f => .error f
    | .ok a, .ok b => .ok (s.add a b)
  | .named span negated name, s =>
    ((CharSet.ofRanges name.ranges).settle m span negated).map s.union
  | .property span, _ => failure (propertyFlaw m) span
  | .shorthand h, s => (h.set m).map s.union
  | .bracketed span negated inside, s =>
    match inside.addTo m .empty with
    | .error f => .error f
    | .ok inner => (inner.settle m span negated).map s.union
  | .union _ items, s => SetTree.addAll m items s
  | .combined _ operator left right, s =>
    match left.addTo m .empty with
    | .error f => .error f
    | .ok first =>
      match right.addTo m .empty with
      | .error f => .error f
      | .ok second =>
        match second.fold m right.span with
        | .error f => .error f
        | .ok second =>
          (first.fold m left.span).map fun first => s.union (operator.apply first second)

/-- The set with what several trees add to it. -/
def SetTree.addAll (m : Mode) : List SetTree → CharSet → Except Fault CharSet
  | [], s => .ok s
  | t :: ts, s =>
    match t.addTo m s with
    | .error f => .error f
    | .ok s => SetTree.addAll m ts s

end

/-! ### Parts -/

/-- The pattern of a character. -/
def Literal.meaning (m : Mode) (l : Literal) : Except Fault Pattern :=
  if m.unicode then
    if m.caseless then failure .casesUnknown l.span else .ok (.literal [l.char])
  else if l.isByte && 0x80 ≤ l.char.toNat then failure .notText l.span
  else if m.caseless then .ok (.ofSet (CharSet.single l.char).withCases true)
  else .ok (.literal [l.char])

/-- The pattern of the dot. -/
def dotMeaning (m : Mode) (span : Span) : Except Fault Pattern :=
  if !m.unicode then failure .notText span
  else
    let ends : List (Nat × Nat) :=
      if m.dotAll then [] else if m.returns then [(0x0A, 0x0A), (0x0D, 0x0D)] else [(0x0A, 0x0A)]
    .ok (.ofSet (CharSet.ofRanges ends).complement false)

/-- What an anchor asks of a place. -/
def Anchor.look (m : Mode) : Anchor → Look
  | textStart => .textStart
  | textEnd => .textEnd
  | lineStart =>
    if !m.multiline then .textStart else if m.returns then .returnStart else .lineStart
  | lineEnd => if !m.multiline then .textEnd else if m.returns then .returnEnd else .lineEnd
  | word edge => .word edge m.unicode

mutual

/-- The pattern of a part, and the flags behind it. -/
def Tree.meaning : Tree → Mode → Except Fault (Pattern × Mode)
  | .empty _, m => .ok (.nothing, m)
  | .flags _ items, m => .ok (.nothing, m.set items)
  | .literal l, m => (l.meaning m).map fun p => (p, m)
  | .dot span, m => (dotMeaning m span).map fun p => (p, m)
  | .anchor _ a, m => .ok (.look (a.look m), m)
  | .shorthand s, m => (s.set m).map fun set => (.ofSet set true, m)
  | .property span, m => failure (propertyFlaw m) span
  | .bracketed span negated inside, m =>
    match inside.addTo m .empty with
    | .error f => .error f
    | .ok set => (set.settle m span negated).map fun set => (.ofSet set (!m.unicode), m)
  | .repetition _ least most greedy inner, m =>
    (inner.meaning m).map fun (p, m) => (p.times least most (greedy != m.lazySwap), m)
  | .group _ items inner, m =>
    match items with
    | none => (inner.meaning m).map fun (p, _) => (.remembered p, m)
    | some items => (inner.meaning (m.set items)).map fun (p, _) => (p, m)
  | .sequence _ parts, m =>
    (Tree.meanings parts [] m).map fun (ps, m) => (chain ps.reverse, m)
  | .choice _ parts, m => (Tree.meanings parts [] m).map fun (ps, m) => (anyOf ps.reverse, m)

/-- The patterns of several parts, the last one first, and the flags behind them. -/
def Tree.meanings : List Tree → List Pattern → Mode → Except Fault (List Pattern × Mode)
  | [], ps, m => .ok (ps, m)
  | t :: ts, ps, m =>
    match t.meaning m with
    | .error f => .error f
    | .ok (p, m) => Tree.meanings ts (p :: ps) m

end

end CommitGate.Pattern
