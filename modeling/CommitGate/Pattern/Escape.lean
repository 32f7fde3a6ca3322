import CommitGate.Pattern.Cursor
import CommitGate.Pattern.Tree

/-!
# Reading single characters

The smallest parts of a pattern: a character, the dot, an anchor, and what a backslash introduces.
Behind a backslash all punctuation stands for itself; letters and digits have meanings of their own,
or none.
-/

namespace CommitGate.Pattern

/-- A smallest part. -/
inductive Atom where
  | literal (l : Literal)
  | dot (span : Span)
  | anchor (span : Span) (a : Anchor)
  | shorthand (s : Shorthand)
  | property (span : Span)

namespace Atom

/-- Where the part stands. -/
def span : Atom → Span
  | literal l => l.span
  | dot s => s
  | anchor s _ => s
  | shorthand s => s.span
  | property s => s

/-- The part in a tree. -/
def toTree : Atom → Tree
  | literal l => .literal l
  | dot s => .dot s
  | anchor s a => .anchor s a
  | shorthand s => .shorthand s
  | property s => .property s

/-- The part in a bracketed set. -/
def toSet : Atom → Except Fault SetTree
  | literal l => .ok (.literal l)
  | shorthand s => .ok (.shorthand s)
  | property s => .ok (.property s)
  | atom => .error { flaw := .escapeInSet, span := atom.span }

/-- The part at the end of a range. -/
def toLiteral : Atom → Except Fault Literal
  | literal l => .ok l
  | atom => .error { flaw := .rangeEnd, span := atom.span }

end Atom

/-! ### Codes -/

/-- The value of a hexadecimal digit. -/
def digitValue? (c : Char) : Option Nat :=
  if c.isDigit then some (c.toNat - 0x30)
  else if 'a' ≤ c && c ≤ 'f' then some (c.toNat - 0x57)
  else if 'A' ≤ c && c ≤ 'F' then some (c.toNat - 0x37)
  else none

/-- The character of a code in hexadecimal digits. -/
def charOfDigits? (digits : List Char) : Option Char :=
  let code := digits.foldl (fun n c => n * 16 + (digitValue? c).getD 0) 0
  if code.isValidChar then some (Char.ofNat code) else none

/-- So many hexadecimal digits. -/
def readDigits (free : Bool) : Nat → Cursor → Except Fault (List Char × Cursor)
  | 0, c => .ok ([], c)
  | n + 1, c =>
    match c.rest with
    | [] => .error { flaw := .escapeUnfinished, span := c.here }
    | x :: _ =>
      if (digitValue? x).isNone then .error { flaw := .codeDigit, span := c.one }
      else (readDigits free n (c.step free)).map fun (digits, c) => (x :: digits, c)

/-- The code behind a letter: so many digits, or any number of them in braces. The span of what is
read starts at `start`. -/
def readCode (free : Bool) (start : Mark) (digitCount : Nat) (c : Cursor) :
    Except Fault (Literal × Cursor) :=
  if c.atEnd then .error { flaw := .escapeUnfinished, span := c.here }
  else if c.sees '{' then
    let inside := c.step free
    let (digits, stop) := inside.takeWhile free fun x => (digitValue? x).isSome
    if stop.atEnd then .error { flaw := .escapeUnfinished, span := stop.since c.mark }
    else if !stop.sees '}' then .error { flaw := .codeDigit, span := stop.one }
    else
      let behind := stop.step free
      if digits.isEmpty then .error { flaw := .codeEmpty, span := behind.since c.mark }
      else
        match charOfDigits? digits with
        | none => .error { flaw := .codeInvalid, span := stop.since c.next.mark }
        | some char => .ok ({ span := behind.since start, char }, behind)
  else
    match readDigits free digitCount c with
    | .error f => .error f
    | .ok (digits, behind) =>
      match charOfDigits? digits with
      | none => .error { flaw := .codeInvalid, span := behind.since c.mark }
      | some char =>
        .ok ({ span := behind.since start, char, isByte := digitCount == 2 }, behind)

/-! ### Properties and edges -/

/-- The property behind its letter: a letter, or a name in braces. -/
def readProperty (free : Bool) (start : Mark) (c : Cursor) : Except Fault (Span × Cursor) :=
  if c.atEnd then .error { flaw := .escapeUnfinished, span := c.here }
  else if c.sees '{' then
    let (_, stop) := (c.step free).takeWhile free fun x => x != '}'
    if stop.atEnd then .error { flaw := .escapeUnfinished, span := stop.here }
    else .ok (stop.next.since start, stop.next)
  else if c.sees '\\' then .error { flaw := .propertyInvalid, span := c.one }
  else
    let behind := c.step free
    .ok (behind.since start, behind)

/-- The edge of words that a name in braces stands for. -/
def WordEdge.ofName? : String → Option WordEdge
  | "start" => some start
  | "end" => some stop
  | "start-half" => some startHalf
  | "end-half" => some stopHalf
  | _ => none

/-- The edge of words behind its letter: any edge, or one named in braces. Braces with no name are
left, as they may be the bounds of a repetition. -/
def readEdge (free : Bool) (start : Mark) (c : Cursor) : Except Fault (Atom × Cursor) :=
  let plain : Atom × Cursor := (.anchor (c.since start) (.word .either), c)
  let isNameChar (x : Char) : Bool := x.isAlpha || x == '-'
  if !c.sees '{' then .ok plain
  else
    let inside := c.step free
    match inside.rest with
    | [] => .error { flaw := .edgeUnfinished, span := inside.since start }
    | x :: _ =>
      if !isNameChar x then .ok plain
      else
        let (name, stop) := inside.takeWhile free isNameChar
        if !stop.sees '}' then .error { flaw := .edgeUnclosed, span := stop.since c.mark }
        else
          match WordEdge.ofName? (String.ofList name) with
          | none => .error { flaw := .edgeUnknown, span := stop.since inside.mark }
          | some edge => .ok (.anchor (stop.next.since start) (.word edge), stop.next)

/-! ### Escapes -/

/-- The character that a letter behind a backslash stands for. -/
def letterChar? : Char → Option Char
  | 'a' => some '\x07'
  | 'f' => some '\x0C'
  | 't' => some '\t'
  | 'n' => some '\n'
  | 'r' => some '\r'
  | 'v' => some '\x0B'
  | _ => none

/-- The anchor that a character behind a backslash stands for. -/
def letterAnchor? : Char → Option Anchor
  | 'A' => some .textStart
  | 'z' => some .textEnd
  | 'B' => some (.word .neither)
  | '<' => some (.word .start)
  | '>' => some (.word .stop)
  | _ => none

/-- The class that a letter behind a backslash stands for, in lower case, or in upper case for all
other characters. -/
def letterClass? (c : Char) : Option (ShorthandKind × Bool) :=
  let negated := c.isUpper
  match c.toLower with
  | 'd' => some (.digit, negated)
  | 's' => some (.space, negated)
  | 'w' => some (.word, negated)
  | _ => none

/-- What a backslash introduces. -/
def readEscape (free : Bool) (c : Cursor) : Except Fault (Atom × Cursor) :=
  let start := c.mark
  let letter := c.next
  let behind := letter.next
  let span := behind.since start
  match letter.rest with
  | [] => .error { flaw := .escapeUnfinished, span := letter.since start }
  | x :: _ =>
    let code (digitCount : Nat) : Except Fault (Atom × Cursor) :=
      (readCode free start digitCount (letter.step free)).map fun (l, c) => (.literal l, c)
    if x.isDigit then .error { flaw := .backreference, span }
    else if x == 'x' then code 2
    else if x == 'u' then code 4
    else if x == 'U' then code 8
    else if x == 'p' || x == 'P' then
      (readProperty free start (letter.step free)).map fun (s, c) => (.property s, c)
    else if x == 'b' then readEdge free start behind
    else
      match letterClass? x, letterAnchor? x, letterChar? x with
      | some (kind, negated), _, _ => .ok (.shorthand { span, kind, negated }, behind)
      | _, some a, _ => .ok (.anchor span a, behind)
      | _, _, some char => .ok (.literal { span, char }, behind)
      | _, _, _ =>
        if x.toNat < 0x80 && !x.isAlphanum then .ok (.literal { span, char := x }, behind)
        else .error { flaw := .escapeUnknown, span }

/-- The smallest part at a character. -/
def readAtom (free : Bool) (c : Cursor) (x : Char) : Except Fault (Atom × Cursor) :=
  if x == '\\' then readEscape free c
  else if x == '.' then .ok (.dot c.one, c.next)
  else if x == '^' then .ok (.anchor c.one .lineStart, c.next)
  else if x == '$' then .ok (.anchor c.one .lineEnd, c.next)
  else .ok (.literal { span := c.one, char := x }, c.next)

end CommitGate.Pattern
