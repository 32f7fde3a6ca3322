import CommitGate.Pattern.Fault
import CommitGate.Text.Blank

/-!
# Reading a pattern

A cursor is what is left of the text of a pattern, with the place where that starts. A pattern in
free form has blank characters and comments between its parts, which are passed over.
-/

namespace CommitGate.Pattern

/-- What is left to read. -/
structure Cursor where
  rest : List Char
  mark : Mark := {}
deriving DecidableEq, Repr

/-- The characters of a kind in front, and what is left behind them. In free form blank characters
and comments before, between and behind them are passed over; a comment goes on to the end of its
line. -/
def takeFrom (free : Bool) (p : Char → Bool) :
    (inComment : Bool) → Mark → List Char → List Char × Cursor
  | _, mark, [] => ([], { rest := [], mark })
  | inComment, mark, c :: rest =>
    if inComment then takeFrom free p (c != '\n') (mark.after c) rest
    else if free && Text.isBlank c then takeFrom free p false (mark.after c) rest
    else if free && c == '#' then takeFrom free p true (mark.after c) rest
    else if p c then
      let (taken, cursor) := takeFrom free p false (mark.after c) rest
      (c :: taken, cursor)
    else ([], { rest := c :: rest, mark })

namespace Cursor

/-- Whether nothing is left. -/
def atEnd (c : Cursor) : Bool := c.rest.isEmpty

/-- Whether a character comes next. -/
def sees (c : Cursor) (x : Char) : Bool := c.rest.head? == some x

/-- The cursor behind the next character. -/
def next (c : Cursor) : Cursor :=
  match c.rest with
  | [] => c
  | x :: rest => { rest, mark := c.mark.after x }

/-- The characters of a kind in front, and what is left behind them; see `takeFrom`. -/
def takeWhile (free : Bool) (p : Char → Bool) (c : Cursor) : List Char × Cursor :=
  takeFrom free p false c.mark c.rest

/-- The cursor behind what free form passes over. -/
def skip (free : Bool) (c : Cursor) : Cursor := (c.takeWhile free fun _ => false).2

/-- The cursor behind the next character and what free form passes over. -/
def step (free : Bool) (c : Cursor) : Cursor := c.next.skip free

/-- The cursor behind a word, if it comes next. -/
def behind? (c : Cursor) : List Char → Option Cursor
  | [] => some c
  | x :: word => if c.sees x then c.next.behind? word else none

/-- The empty span at the cursor. -/
def here (c : Cursor) : Span := { start := c.mark, stop := c.mark }

/-- The span of the next character. -/
def one (c : Cursor) : Span := { start := c.mark, stop := c.next.mark }

/-- The span from a place to the cursor. -/
def since (c : Cursor) (start : Mark) : Span := { start, stop := c.mark }

/-- The character behind the next one. In free form it is the next that is not blank, a number sign
apart, and where there is none of that sort it is whatever comes behind. -/
def peek (free : Bool) (c : Cursor) : Option Char :=
  let rest := c.rest.tail
  if !free then rest.head?
  else
    match rest.dropWhile Text.isBlank with
    | [] => rest.head?
    | x :: comment =>
      if x == '#' then ((comment.dropWhile Text.isBlank).head?).or rest.head? else some x

end Cursor

end CommitGate.Pattern
