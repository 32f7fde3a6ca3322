import CommitGate.Pattern.CharSet
import CommitGate.Pattern.Tree

/-!
# Patterns

A pattern matches parts of a text. Between two parts, what comes before and behind a place decides
whether an anchor holds there. To find out whether a pattern occurs in a text, the places of the
text that a match may reach are marked: `Pattern.reach` takes the places where matches may start to
the places where they may stop, for all of them at once.
-/

namespace CommitGate

namespace Pattern

/-- What is asked of a place. -/
inductive Look where
  | textStart
  | textEnd
  /-- The text or a line starts. -/
  | lineStart
  /-- The text or a line ends. -/
  | lineEnd
  /-- The text or a line starts, where a return may end a line. -/
  | returnStart
  /-- The text or a line ends, where a return may end a line. -/
  | returnEnd
  /-- The edge of a word. Words are of ASCII; whether letters beyond it were asked for is kept in
  `wide`. -/
  | word (edge : WordEdge) (wide : Bool)
deriving DecidableEq, Repr

/-- Whether a character is part of a word. -/
def isWordChar (c : Char) : Bool := c.isAlphanum || c == '_'

/-- Whether what is asked of a place holds between two characters, where there are any. -/
def Look.holds (before after : Option Char) : Look → Bool
  | textStart => before.isNone
  | textEnd => after.isNone
  | lineStart => before.all (· == '\n')
  | lineEnd => after.all (· == '\n')
  | returnStart =>
    before.all (· == '\n') || (before == some '\r' && after != some '\n')
  | returnEnd =>
    after.all (· == '\r') || (after == some '\n' && before != some '\r')
  | word edge _ =>
    let inFront := before.any isWordChar
    let behind := after.any isWordChar
    match edge with
    | .either => inFront != behind
    | .neither => inFront == behind
    | .start => !inFront && behind
    | .stop => inFront && !behind
    | .startHalf => !inFront
    | .stopHalf => !behind

end Pattern

/-- A pattern. -/
inductive Pattern where
  /-- Matches between any two characters. -/
  | nothing
  | literal (text : List Char)
  /-- Matches a character of a set. Whether its characters were meant as bytes is kept. -/
  | oneOf (s : Pattern.CharSet) (bytes : Bool)
  /-- Matches where what is asked holds. -/
  | look (l : Pattern.Look)
  /-- Matches what the parts match, one behind the other. -/
  | sequence (parts : List Pattern)
  /-- Matches what one of the branches matches; earlier ones are preferred. -/
  | choice (branches : List Pattern)
  /-- Matches at least and at most so many parts, one behind the other; many are preferred if it is
  greedy. -/
  | repeated (inner : Pattern) (least : Nat) (most : Option Nat) (greedy : Bool)
  /-- Matches the same; the match is remembered. -/
  | remembered (inner : Pattern)
deriving Repr

namespace Pattern

/-! ### Marked places -/

/-- Marks on the places of a text: before each of its characters, and at its end. -/
abbrev Marks := List Bool

namespace Marks

/-- The places with one of two marks. -/
def union (s t : Marks) : Marks := List.zipWith (· || ·) s t

/-- The places behind a character of a set that has a mark in front. -/
def advance (set : CharSet) (text : List Char) (s : Marks) : Marks :=
  false :: List.zipWith (fun c marked => marked && set.contains c) text s

/-- The marked places where what is asked holds. -/
def keep (l : Look) (text : List Char) (s : Marks) : Marks :=
  let before := none :: text.map some
  let after := text.map some ++ [none]
  List.zipWith (fun (b, a) marked => marked && l.holds b a) (before.zip after) s

/-- The places after exactly so many steps. When a step changes nothing no other does. -/
def after (step : Marks → Marks) : Nat → Marks → Marks
  | 0, s => s
  | n + 1, s =>
    let t := step s
    if t == s then s else after step n t

/-- The places seen and those at most so many steps further; `fresh` are the places seen last. -/
def within (step : Marks → Marks) : Nat → (seen fresh : Marks) → Marks
  | 0, seen, _ => seen
  | n + 1, seen, fresh =>
    let found := List.zipWith (fun new old => new && !old) (step fresh) seen
    if found.any id then within step n (seen.union found) found else seen

end Marks

mutual

/-- The places where matches may stop that start at marked places. More steps than there are places
reach nothing new: steps never go back, and a step that stays may be left out. -/
def reach (text : List Char) : Pattern → Marks → Marks
  | nothing, s => s
  | literal t, s => t.foldl (fun s c => s.advance (.single c) text) s
  | oneOf set _, s => s.advance set text
  | look l, s => s.keep l text
  | sequence parts, s => reachAll text parts s
  | choice branches, s => reachAny text branches s (s.map fun _ => false)
  | repeated inner least most _, s =>
    let step := reach text inner
    let start := Marks.after step (min least s.length) s
    Marks.within step (min ((most.map (· - least)).getD s.length) s.length) start start
  | remembered inner, s => reach text inner s

/-- The places where matches of all parts, one behind the other, may stop. -/
def reachAll (text : List Char) : List Pattern → Marks → Marks
  | [], s => s
  | p :: ps, s => reachAll text ps (reach text p s)

/-- The places where matches of one of the branches may stop, together with places found before. -/
def reachAny (text : List Char) : List Pattern → (start found : Marks) → Marks
  | [], _, found => found
  | p :: ps, start, found => reachAny text ps start (found.union (reach text p start))

end

/-- Whether the pattern matches a part of a text. -/
def occursIn (p : Pattern) (text : List Char) : Bool :=
  (p.reach text (List.replicate (text.length + 1) true)).any id

end Pattern

end CommitGate
