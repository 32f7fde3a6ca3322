import CommitGate.Pattern.Basic

/-!
# Putting patterns together

Patterns are kept in a plain form: no sequence stands in a sequence and no choice in a choice,
neighbouring texts are one text, a choice between single characters or between sets is a set, and
what all branches of a choice start with stands in front of it. What a pattern takes, and what it
asks of its ends, is read off its parts.
-/

namespace CommitGate.Pattern

/-! ### What patterns take -/

mutual

/-- Whether the pattern matches nothing but the empty text. -/
def isBare : Pattern → Bool
  | nothing | look _ => true
  | literal _ | oneOf _ _ => false
  | sequence parts => areBare parts
  | choice branches => areBare branches
  | repeated inner _ _ _ => inner.isBare
  | remembered inner => inner.isBare

/-- Whether all patterns match nothing but the empty text. -/
def areBare : List Pattern → Bool
  | [] => true
  | p :: ps => p.isBare && areBare ps

end

mutual

/-- The number of characters in the shortest match, or `none` if a part of the pattern never
matches. -/
def shortest : Pattern → Option Nat
  | nothing | look _ => some 0
  | literal text => some text.length
  | oneOf s _ => if s.isEmpty then none else some 1
  | sequence parts => shortestOfAll parts 0
  | choice branches => shortestOfAny branches none
  | repeated inner least _ _ => inner.shortest.map (least * ·)
  | remembered inner => inner.shortest

/-- The number of characters in the shortest matches of all patterns, on top of others. -/
def shortestOfAll : List Pattern → (others : Nat) → Option Nat
  | [], n => some n
  | p :: ps, n =>
    match p.shortest with
    | none => none
    | some m => shortestOfAll ps (n + m)

/-- The number of characters in the shortest match of one of the patterns, or of others. -/
def shortestOfAny : List Pattern → (others : Option Nat) → Option Nat
  | [], n => n
  | p :: ps, n =>
    match p.shortest with
    | none => none
    | some m => shortestOfAny ps (some (min m (n.getD m)))

end

mutual

/-- Whether the pattern asks something of the place where a match starts, whatever matches. -/
def asksFirst (l : Look) : Pattern → Bool
  | nothing | literal _ | oneOf _ _ => false
  | look k => k == l
  | sequence parts => asksInFront l parts
  | choice branches => allAskFirst l branches
  | repeated inner least _ _ => 0 < least && inner.asksFirst l
  | remembered inner => inner.asksFirst l

/-- Whether something is asked of the place where a match of all patterns, one behind the other,
starts. -/
def asksInFront (l : Look) : List Pattern → Bool
  | [] => false
  | p :: ps => p.asksFirst l || (p.isBare && asksInFront l ps)

/-- Whether all patterns ask something of the place where a match starts. -/
def allAskFirst (l : Look) : List Pattern → Bool
  | [] => true
  | p :: ps => p.asksFirst l && allAskFirst l ps

end

/-! ### Likeness -/

mutual

/-- Whether two patterns are alike in all their parts. Two matches that are remembered are not. -/
def isLike : Pattern → Pattern → Bool
  | nothing, nothing => true
  | literal s, literal t => s == t
  | oneOf s a, oneOf t b => s.ranges == t.ranges && a == b
  | look k, look l => k == l
  | sequence ps, sequence qs => areLike ps qs
  | choice ps, choice qs => areLike ps qs
  | repeated p least most greedy, repeated q least' most' greedy' =>
    least == least' && most == most' && greedy == greedy' && p.isLike q
  | _, _ => false

/-- Whether the patterns of two lists are alike. -/
def areLike : List Pattern → List Pattern → Bool
  | [], [] => true
  | p :: ps, q :: qs => p.isLike q && areLike ps qs
  | _, _ => false

end

/-! ### Sequences -/

/-- Whether the pattern is a text. -/
def isLiteral : Pattern → Bool
  | literal _ => true
  | _ => false

/-- The text that the pattern is, if it is one. -/
def text? : Pattern → Option (List Char)
  | literal text => some text
  | _ => none

/-- The parts of a sequence. -/
def parts : Pattern → List Pattern
  | nothing => []
  | sequence parts => parts
  | p => [p]

/-- The patterns with neighbouring texts made one. -/
def joinTexts (ps : List Pattern) : List Pattern :=
  (ps.splitBy fun p q => p.isLiteral && q.isLiteral).flatMap fun run =>
    match run with
    | literal _ :: _ => [literal (run.filterMap text?).flatten]
    | _ => run

/-- Matches what the patterns match one behind the other. -/
def chain (ps : List Pattern) : Pattern :=
  match joinTexts (ps.flatMap parts) with
  | [] => nothing
  | [p] => p
  | ps => sequence ps

/-! ### Choices -/

/-- Never matches. -/
def never : Pattern := oneOf .empty true

/-- Matches a character of a set. -/
def ofSet (s : CharSet) (bytes : Bool) : Pattern :=
  match s.ranges with
  | [] => never
  | [(a, b)] => if a == b then literal [Char.ofNat a] else oneOf s bytes
  | _ => oneOf s bytes

/-- The branches of a choice. -/
def branches : Pattern → List Pattern
  | choice branches => branches
  | p => [p]

/-- The only character that the pattern matches, if it is a text of one character. -/
def single? : Pattern → Option Char
  | literal [c] => some c
  | _ => none

/-- The set that the pattern is, if it is one. -/
def set? : Pattern → Option CharSet
  | oneOf s _ => some s
  | _ => none

/-- What all patterns start with. -/
def front : List Pattern → List Pattern
  | sequence first :: ps =>
    ps.foldl
      (fun front p =>
        match p with
        | sequence parts => ((front.zip parts).takeWhile fun (x, y) => x.isLike y).map (·.1)
        | _ => [])
      first
  | _ => []

/-- Matches what one of the patterns matches, which are kept as they are unless they make a set. -/
def alternatives (ps : List Pattern) : Pattern :=
  match ps.flatMap branches with
  | [] => never
  | [p] => p
  | ps =>
    match ps.mapM single?, ps.mapM set? with
    | some chars, _ => ofSet (chars.foldl (fun s c => s.add c.toNat c.toNat) .empty) false
    | none, some sets => ofSet (sets.foldl CharSet.union .empty) false
    | none, none => choice ps

/-- Matches what one of the patterns matches. -/
def anyOf (ps : List Pattern) : Pattern :=
  match ps.flatMap branches with
  | [] => never
  | [p] => p
  | ps =>
    match front ps with
    | [] => alternatives ps
    | front =>
      chain (front ++ [alternatives (ps.map fun p => chain (p.parts.drop front.length))])

/-! ### Repetitions -/

/-- The pattern repeated at least and at most so many times. What takes no characters is repeated
once at most. -/
def times (p : Pattern) (least : Nat) (most : Option Nat) (greedy : Bool) : Pattern :=
  let (least, most) :=
    if p.isBare then (min least 1, some (min (most.getD 1) 1)) else (least, most)
  if most == some 0 then nothing
  else if least == 1 && most == some 1 then p
  else repeated p least most greedy

end CommitGate.Pattern
