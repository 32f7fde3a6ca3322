import CommitGate.Pattern.Cursor
import CommitGate.Pattern.Tree
import CommitGate.Text.Letter

/-!
# Reading the openings of groups

A group is remembered, under a name or not, or it has flags. Flags may also stand in parentheses
without a part; they are for what follows then.
-/

namespace CommitGate.Pattern

/-! ### Flags -/

/-- The flag of a letter. -/
def Flag.ofChar? : Char → Option Flag
  | 'i' => some caseless
  | 'm' => some multiline
  | 's' => some dotAll
  | 'U' => some lazySwap
  | 'u' => some unicode
  | 'R' => some returns
  | 'x' => some free
  | _ => none

/-- The flags up to the sign that ends them, the last one first in `items`; `minus` is the span of
the minus sign just read. -/
def readFlags (items : List FlagItem) (minus : Option Span) :
    Mark → List Char → Except Fault (List FlagItem × Cursor)
  | mark, [] => .error { flaw := .flagUnfinished, span := { start := mark, stop := mark } }
  | mark, c :: rest =>
    let span : Span := { start := mark, stop := mark.after c }
    if c == ':' || c == ')' then
      match minus with
      | some span => .error { flaw := .flagDangling, span }
      | none => .ok (items.reverse, { rest := c :: rest, mark })
    else if c != '-' && (Flag.ofChar? c).isNone then .error { flaw := .flagUnknown, span }
    else
      let flag := if c == '-' then none else Flag.ofChar? c
      match items.find? fun i => i.flag == flag with
      | some earlier =>
        let flaw := if c == '-' then .flagNegatedTwice else .flagDuplicate
        .error { flaw, span, other := some earlier.span }
      | none =>
        readFlags ({ span, flag } :: items) (if c == '-' then some span else none) (mark.after c)
          rest

/-! ### Names -/

/-- Whether a character may stand in the name of a group. -/
def isNameChar (first : Bool) (c : Char) : Bool :=
  c == '_' || Text.isLetter c ||
    (!first && (c == '.' || c == '[' || c == ']' || Text.isNumeral c))

/-- The name of a group up to the sign that ends it, which is passed over. -/
def readName (first : Bool) : Mark → List Char → Except Fault (List Char × Span × Cursor)
  | mark, [] => .error { flaw := .nameUnfinished, span := { start := mark, stop := mark } }
  | mark, c :: rest =>
    let span : Span := { start := mark, stop := mark.after c }
    if c == '>' then
      .ok ([], { start := mark, stop := mark }, { rest, mark := mark.after c })
    else if !isNameChar first c then .error { flaw := .nameCharacter, span }
    else
      (readName false (mark.after c) rest).map fun (name, s, cursor) =>
        (c :: name, { s with start := mark }, cursor)

/-- The names of groups, with their places. -/
abbrev Names := List (List Char × Span)

/-- The name of a group, which is not empty and not the name of another group. -/
def readNewName (names : Names) (c : Cursor) : Except Fault (Names × Cursor) :=
  match readName true c.mark c.rest with
  | .error f => .error f
  | .ok (name, span, c) =>
    if name.isEmpty then .error { flaw := .nameEmpty, span }
    else
      match names.lookup name with
      | some earlier => .error { flaw := .nameDuplicate, span, other := some earlier }
      | none => .ok ((name, span) :: names, c)

/-! ### Openings -/

/-- What an opening parenthesis introduces. -/
inductive Opening where
  /-- A group: its opening, its flags, or `none` if it is remembered, and the names so far. -/
  | group (span : Span) (items : Option (List FlagItem)) (names : Names)
  | flags (span : Span) (items : List FlagItem)

/-- The signs of a look ahead or behind. -/
def lookArounds : List (List Char) := [['?', '='], ['?', '!'], ['?', '<', '='], ['?', '<', '!']]

/-- The opening at its parenthesis. -/
def readGroup (free : Bool) (names : Names) (c : Cursor) : Except Fault (Opening × Cursor) :=
  let span := c.one
  let inside := c.step free
  match lookArounds.findSome? inside.behind? with
  | some behind => .error { flaw := .lookAround, span := behind.since span.start }
  | none =>
    match (inside.behind? ['?', 'P', '<']).or (inside.behind? ['?', '<']) with
    | some name =>
      (readNewName names name).map fun (names, c) => (.group span none names, c)
    | none =>
      match inside.behind? ['?'] with
      | none => .ok (.group span none names, inside)
      | some first =>
        if first.atEnd then .error { flaw := .groupUnclosed, span }
        else
          match readFlags [] none first.mark first.rest with
          | .error f => .error f
          | .ok (items, stop) =>
            if stop.sees ':' then .ok (.group span (some items) names, stop.next)
            else if items.isEmpty then
              .error { flaw := .repetitionOfNothing, span := inside.here }
            else .ok (.flags (stop.next.since span.start) items, stop.next)

end CommitGate.Pattern
