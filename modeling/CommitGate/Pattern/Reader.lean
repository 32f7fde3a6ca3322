import CommitGate.Pattern.Bracket
import CommitGate.Pattern.Group

/-!
# Reading patterns

The parts of a pattern are read from the left. Groups that are being read lie on a stack; flags that
are set in a group are for the rest of that group. A group without an end is reported at the opening
of the innermost one. The depth of the tree is looked at when the whole pattern has been read.
-/

namespace CommitGate.Pattern

/-- What is being read of a pattern, or of a group. -/
structure OpenPart where
  first : Mark
  /-- Where the sequence starts that is being read. -/
  start : Mark
  /-- The parts of that sequence, the last one first. -/
  parts : List Tree := []
  /-- The sequences to choose from before that one, the last one first. -/
  earlier : List Tree := []

namespace OpenPart

/-- What starts at a place. -/
def startingAt (mark : Mark) : OpenPart := { first := mark, start := mark }

/-- What is being read with one more part. -/
def push (p : OpenPart) (part : Tree) : OpenPart := { p with parts := part :: p.parts }

/-- The sequence that is being read. -/
def sequence (p : OpenPart) (stop : Mark) : Tree :=
  match p.parts with
  | [] => .empty { start := p.start, stop }
  | [part] => part
  | _ => .sequence { start := p.start, stop } p.parts.reverse

/-- What was read up to a place. -/
def close (p : OpenPart) (stop : Mark) : Tree :=
  match p.earlier with
  | [] => p.sequence stop
  | _ => .choice { start := p.first, stop } (p.sequence stop :: p.earlier).reverse

end OpenPart

/-- A group that is being read, with what is being read around it. -/
structure OpenGroup where
  span : Span
  /-- Its flags, or `none` if it is remembered. -/
  items : Option (List FlagItem)
  /-- Whether the pattern around it is in free form. -/
  free : Bool
  /-- What is being read around it. -/
  around : OpenPart

/-- How far a pattern has been read. -/
structure ReaderState where
  cursor : Cursor
  free : Bool := false
  names : Names := []
  part : OpenPart
  /-- The groups that are being read, the innermost first. -/
  groups : List OpenGroup := []

/-! ### Repetitions -/

/-- The greatest number of repetitions. -/
def maxCount : Nat := 4294967295

/-- A number of repetitions, with blank characters around it. -/
def readCount (free : Bool) (c : Cursor) : Except Fault Nat × Cursor :=
  let first := (c.takeWhile false Text.isBlank).2
  let (digits, stop) := first.takeWhile free Char.isDigit
  let behind := (stop.takeWhile free Text.isBlank).2
  let count := digits.foldl (fun n d => n * 10 + (d.toNat - 0x30)) 0
  if digits.isEmpty then (.error { flaw := .countEmpty, span := stop.since first.mark }, behind)
  else if maxCount < count then
    (.error { flaw := .countTooLarge, span := stop.since first.mark }, behind)
  else (.ok count, behind)

/-- How often a part is repeated. -/
structure Bounds where
  least : Nat
  /-- The greatest number of times, if there is one. -/
  most : Option Nat
  /-- Whether it is repeated rather often. -/
  greedy : Bool

/-- The bounds with the question mark behind them, if there is one, that asks for short matches. -/
def readGreed (least : Nat) (most : Option Nat) (c : Cursor) : Bounds × Cursor :=
  if c.sees '?' then ({ least, most, greedy := false }, c.next)
  else ({ least, most, greedy := true }, c)

/-- The bounds of a repetition at their opening brace. -/
def readBounds (free : Bool) (c : Cursor) : Except Fault (Bounds × Cursor) := do
  let start := c.mark
  let unclosed (c : Cursor) : Fault := { flaw := .countUnclosed, span := c.since start }
  let close (least : Nat) (most : Option Nat) (c : Cursor) : Except Fault (Bounds × Cursor) :=
    if !c.sees '}' then .error (unclosed c)
    else
      let (bounds, behind) := readGreed least most (c.step free)
      if most.any (· < least) then .error { flaw := .countOrder, span := behind.since start }
      else .ok (bounds, behind)
  let c := c.step free
  if c.atEnd then throw (unclosed c)
  let (least, c) := readCount free c
  if c.atEnd then throw (unclosed c)
  if c.sees ',' then
    let c := c.step free
    if c.atEnd then throw (unclosed c)
    let least ← least
    if c.sees '}' then close least none c
    else
      let (most, c) := readCount free c
      close least (some (← most)) c
  else
    let least ← least
    close least (some least) c

namespace ReaderState

/-- The state with one more part read, and what is left behind it. -/
def push (s : ReaderState) (part : Tree) (c : Cursor) : ReaderState :=
  { s with cursor := c, part := s.part.push part }

/-- The state with the last part repeated. -/
def repeatLast (s : ReaderState) (bounds : Bounds) (c : Cursor) : ReaderState :=
  match s.part.parts with
  | [] => s
  | last :: parts =>
    let span := c.since last.span.start
    let part := Tree.repetition span bounds.least bounds.most bounds.greedy last
    { s with cursor := c, part := { s.part with parts := part :: parts } }

/-- Reads the sign of a repetition, with the sign behind it that asks for short ones. -/
def readRepetition (s : ReaderState) (x : Char) : Except Fault ReaderState :=
  let c := s.cursor
  match s.part.parts.head?.filter Tree.isRepeatable with
  | none => .error { flaw := .repetitionOfNothing, span := c.here }
  | some _ =>
    if x == '{' then
      (readBounds s.free c).map fun (bounds, c) => s.repeatLast bounds c
    else
      let least := if x == '+' then 1 else 0
      let most := if x == '?' then some 1 else none
      let (bounds, c) := readGreed least most c.next
      .ok (s.repeatLast bounds c)

/-- Reads the opening of a group, or flags. -/
def openGroup (s : ReaderState) : Except Fault ReaderState :=
  (readGroup s.free s.names s.cursor).map fun (opening, c) =>
    match opening with
    | .flags span items =>
      { s.push (.flags span items) c with free := (flagState? .free items).getD s.free }
    | .group span items names =>
      { cursor := c
        free := (items.bind (flagState? .free)).getD s.free
        names
        part := .startingAt c.mark
        groups := { span, items, free := s.free, around := s.part } :: s.groups }

/-- Reads the end of a group. -/
def closeGroup (s : ReaderState) : Except Fault ReaderState :=
  let c := s.cursor
  match s.groups with
  | [] => .error { flaw := .groupUnopened, span := c.one }
  | g :: groups =>
    let part := .group (c.next.since g.span.start) g.items (s.part.close c.mark)
    .ok { s with cursor := c.next, free := g.free, part := g.around.push part, groups }

/-- Reads the sign between two sequences to choose from. -/
def nextChoice (s : ReaderState) : ReaderState :=
  let c := s.cursor
  let part : OpenPart :=
    { first := s.part.first
      start := c.next.mark
      earlier := s.part.sequence c.mark :: s.part.earlier }
  { s with cursor := c.next, part }

/-- Reads what starts with a character. -/
def advance (s : ReaderState) (x : Char) : Except Fault ReaderState :=
  let c := s.cursor
  match x with
  | '(' => s.openGroup
  | ')' => s.closeGroup
  | '|' => .ok s.nextChoice
  | '[' => (readBracketed s.free c).map fun (part, c) => s.push part c
  | '?' | '*' | '+' | '{' => s.readRepetition x
  | _ => (readAtom s.free c x).map fun (atom, c) => s.push atom.toTree c

/-- What was read when nothing is left. -/
def finish (s : ReaderState) : Except Fault Tree :=
  match s.groups with
  | [] => .ok (s.part.close s.cursor.mark)
  | g :: _ => .error { flaw := .groupUnclosed, span := g.span }

/-- Reads what is left, in at most so many parts. -/
def run : Nat → ReaderState → Except Fault Tree
  | 0, s => s.finish
  | n + 1, s =>
    let s := { s with cursor := s.cursor.skip s.free }
    match s.cursor.rest with
    | [] => s.finish
    | x :: _ =>
      match s.advance x with
      | .error f => .error f
      | .ok s => run n s

end ReaderState

/-- The tree of a pattern. Every part takes at least one character. -/
def Tree.ofText (text : List Char) : Except Fault Tree :=
  let start : ReaderState := { cursor := { rest := text }, part := .startingAt {} }
  match start.run (text.length + 1) with
  | .error f => .error f
  | .ok tree =>
    match tree.tooDeep? maxDepth with
    | some span => .error { flaw := .nesting, span }
    | none => .ok tree

end CommitGate.Pattern
