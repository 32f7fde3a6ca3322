import CommitGate.Pattern.Mark

/-!
# The parts of a pattern

The tree of a pattern says how its parts are put together, and where each of them stands. What the
parts match is not said here; see `CommitGate.Pattern.Meaning`.
-/

namespace CommitGate.Pattern

/-- A character in a pattern. -/
structure Literal where
  span : Span
  char : Char
  /-- Whether it is written as a code of two digits, which may stand for a byte. -/
  isByte : Bool := false
deriving DecidableEq, Repr

/-- The classes of characters that have a letter of their own. -/
inductive ShorthandKind where
  | digit
  | space
  | word
deriving DecidableEq, Repr

/-- A class of characters that is written as a letter behind a backslash. -/
structure Shorthand where
  span : Span
  kind : ShorthandKind
  /-- Whether all other characters are meant. -/
  negated : Bool
deriving DecidableEq, Repr

/-- The places at the edge of words. -/
inductive WordEdge where
  /-- A word starts or ends. -/
  | either
  /-- No word starts or ends. -/
  | neither
  | start
  | stop
  /-- No word goes on from before. -/
  | startHalf
  | stopHalf
deriving DecidableEq, Repr

/-- What a pattern may ask of a place. -/
inductive Anchor where
  | lineStart
  | lineEnd
  | textStart
  | textEnd
  | word (edge : WordEdge)
deriving DecidableEq, Repr

/-- What may be set for a part of a pattern. -/
inductive Flag where
  /-- Upper and lower case count as the same. -/
  | caseless
  /-- Anchors of lines stand at every line. -/
  | multiline
  /-- The dot stands for line feeds too. -/
  | dotAll
  /-- Repetitions are short where they would be long. -/
  | lazySwap
  /-- Characters are those of Unicode. -/
  | unicode
  /-- Lines end with a return, a line feed, or both. -/
  | returns
  /-- The pattern is in free form. -/
  | free
deriving DecidableEq, Repr

/-- A flag that is set, or a minus sign: the flags behind it are cleared. -/
structure FlagItem where
  span : Span
  /-- The flag, or `none` for a minus sign. -/
  flag : Option Flag
deriving DecidableEq, Repr

/-- Whether items set or clear a flag. -/
def flagState? (flag : Flag) (items : List FlagItem) : Option Bool :=
  if items.any fun i => i.flag == some flag then
    some <| (items.takeWhile fun i => i.flag != some flag).all fun i => i.flag.isSome
  else none

/-- The operations on sets of characters. -/
inductive SetOperator where
  | intersection
  /-- What is in the first and not in the second. -/
  | difference
  /-- What is in one of them only. -/
  | symmetricDifference
deriving DecidableEq, Repr

/-- The classes of ASCII characters that have a name. -/
inductive NamedClass where
  | alnum
  | alpha
  | ascii
  /-- The space and the tabulator. -/
  | blank
  | cntrl
  | digit
  | graph
  | lower
  /-- What is seen on paper, and the space. -/
  | print
  | punct
  | space
  | upper
  /-- Letters, digits and the low line. -/
  | word
  | xdigit
deriving DecidableEq, Repr

/-- The class of a name. -/
def NamedClass.ofName? : String → Option NamedClass
  | "alnum" => some alnum
  | "alpha" => some alpha
  | "ascii" => some ascii
  | "blank" => some blank
  | "cntrl" => some cntrl
  | "digit" => some digit
  | "graph" => some graph
  | "lower" => some lower
  | "print" => some print
  | "punct" => some punct
  | "space" => some space
  | "upper" => some upper
  | "word" => some word
  | "xdigit" => some xdigit
  | _ => none

/-- What stands between brackets. -/
inductive SetTree where
  | nothing (span : Span)
  | literal (l : Literal)
  | range (span : Span) (first last : Literal)
  | named (span : Span) (negated : Bool) (name : NamedClass)
  | property (span : Span)
  | shorthand (s : Shorthand)
  /-- A set in brackets of its own. -/
  | bracketed (span : Span) (negated : Bool) (inside : SetTree)
  | union (span : Span) (items : List SetTree)
  /-- What an operation makes of two. -/
  | combined (span : Span) (operator : SetOperator) (left right : SetTree)

/-- Where the set stands. -/
def SetTree.span : SetTree → Span
  | nothing s => s
  | literal l => l.span
  | range s _ _ => s
  | named s _ _ => s
  | property s => s
  | shorthand s => s.span
  | bracketed s _ _ => s
  | union s _ => s
  | combined s _ _ _ => s

/-- The tree of a pattern. -/
inductive Tree where
  | empty (span : Span)
  | flags (span : Span) (items : List FlagItem)
  | literal (l : Literal)
  | dot (span : Span)
  | anchor (span : Span) (a : Anchor)
  | shorthand (s : Shorthand)
  | property (span : Span)
  | bracketed (span : Span) (negated : Bool) (inside : SetTree)
  /-- A part repeated at least and at most so many times, rather often if it is greedy. -/
  | repetition (span : Span) (least : Nat) (most : Option Nat) (greedy : Bool) (inner : Tree)
  /-- A part in parentheses, with flags of its own, or `none` if it is remembered. -/
  | group (span : Span) (items : Option (List FlagItem)) (inner : Tree)
  | sequence (span : Span) (parts : List Tree)
  | choice (span : Span) (parts : List Tree)

namespace Tree

/-- Where the part stands. -/
def span : Tree → Span
  | empty s => s
  | flags s _ => s
  | literal l => l.span
  | dot s => s
  | anchor s _ => s
  | shorthand s => s.span
  | property s => s
  | bracketed s _ _ => s
  | repetition s _ _ _ _ => s
  | group s _ _ => s
  | sequence s _ => s
  | choice s _ => s

/-- Whether the part can be repeated. -/
def isRepeatable : Tree → Bool
  | empty _ | flags _ _ => false
  | _ => true

end Tree

/-! ### Depth -/

mutual

/-- The first part of a set that lies deeper than allowed. -/
def SetTree.tooDeep? : SetTree → (allowed : Nat) → Option Span
  | .bracketed s _ inside, n => if n == 0 then some s else inside.tooDeep? (n - 1)
  | .union s items, n => if n == 0 then some s else SetTree.anyTooDeep? items (n - 1)
  | .combined s _ left right, n =>
    if n == 0 then some s
    else
      match left.tooDeep? (n - 1) with
      | some s => some s
      | none => right.tooDeep? (n - 1)
  | _, _ => none

/-- The first part of several sets that lies deeper than allowed. -/
def SetTree.anyTooDeep? : List SetTree → (allowed : Nat) → Option Span
  | [], _ => none
  | t :: ts, n =>
    match t.tooDeep? n with
    | some s => some s
    | none => SetTree.anyTooDeep? ts n

end

mutual

/-- The first part that lies deeper than allowed. -/
def Tree.tooDeep? : Tree → (allowed : Nat) → Option Span
  | .bracketed s _ inside, n => if n == 0 then some s else inside.tooDeep? (n - 1)
  | .repetition s _ _ _ inner, n => if n == 0 then some s else inner.tooDeep? (n - 1)
  | .group s _ inner, n => if n == 0 then some s else inner.tooDeep? (n - 1)
  | .sequence s parts, n => if n == 0 then some s else Tree.anyTooDeep? parts (n - 1)
  | .choice s parts, n => if n == 0 then some s else Tree.anyTooDeep? parts (n - 1)
  | _, _ => none

/-- The first of several parts, or of their parts, that lies deeper than allowed. -/
def Tree.anyTooDeep? : List Tree → (allowed : Nat) → Option Span
  | [], _ => none
  | t :: ts, n =>
    match t.tooDeep? n with
    | some s => some s
    | none => Tree.anyTooDeep? ts n

end

end CommitGate.Pattern
