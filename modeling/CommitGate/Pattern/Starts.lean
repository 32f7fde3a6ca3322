import CommitGate.Pattern.Parts
import CommitGate.Text.Utf8

/-!
# What matches start with

A pattern may be sure to match texts that start in one of a few ways. If these starts are whole
matches, the texts are looked for themselves, and no machine is built for the pattern. Starts are
given up, or cut short, when there are too many of them or when they grow too long.
-/

namespace CommitGate.Pattern

/-- What a match may start with. -/
structure Start where
  bytes : Bytes
  /-- Whether the match is these bytes and no more. -/
  isWhole : Bool := true
deriving DecidableEq, Repr

/-- What matches may start with, the preferred first, or `none` if that is anything. -/
abbrev Starts := Option (List Start)

namespace Start

/-- The start without what is behind so many bytes. -/
def cut (n : Nat) (s : Start) : Start :=
  if s.bytes.length ≤ n then s else { bytes := s.bytes.take n, isWhole := false }

/-- The starts, of which neighbours with the same bytes are one. That is whole if all of them
are. -/
def merge (starts : List Start) : List Start :=
  (starts.foldl
    (fun (merged : List Start) s =>
      match merged with
      | last :: earlier =>
        if last.bytes == s.bytes then
          { last with isWhole := last.isWhole && s.isWhole } :: earlier
        else s :: merged
      | [] => [s])
    []).reverse

/-- The starts without those that go on from an earlier one, which is preferred to them. -/
def preferred (starts : List Start) : List Start :=
  (starts.foldl
    (fun (kept : List Start) s =>
      if kept.any fun k => k.bytes.isPrefixOf s.bytes then kept else s :: kept)
    []).reverse

/-- The bytes that all starts begin with. -/
def common : List Start → Bytes
  | [] => []
  | first :: starts =>
    starts.foldl
      (fun bytes s => ((bytes.zip s.bytes).takeWhile fun (x, y) => x == y).map (·.1))
      first.bytes

end Start

namespace Starts

/-- The greatest number of starts. -/
def maxCount : Nat := 250

/-- The greatest length of a start in bytes. -/
def maxLength : Nat := 100

/-- The greatest number of characters in a set that are told apart. -/
def maxCharacters : Nat := 10

/-- The greatest number of repetitions that are told apart. -/
def maxRepetitions : Nat := 10

/-- The start of no bytes. -/
def bare : Starts := some [{ bytes := [] }]

/-- The starts without what is behind so many bytes. -/
def cut (n : Nat) (s : Starts) : Starts := s.map fun starts => starts.map (Start.cut n)

/-- The starts, none of which is a whole match. -/
def opened (s : Starts) : Starts :=
  s.map fun starts => starts.map fun start => { start with isWhole := false }

/-- Whether no start is known to be a whole match. -/
def isOpen (s : Starts) : Bool :=
  match s with
  | none => true
  | some starts => starts.all fun start => !start.isWhole

/-- The starts of a text. -/
def ofText (text : List Char) : Starts := cut maxLength (some [{ bytes := Text.toBytes text }])

/-- The starts of the characters of a set. -/
def ofSet (s : CharSet) : Starts :=
  if maxCharacters < s.ranges.foldl (fun n r => n + (r.2 + 1 - r.1)) 0 then none
  else
    some <| s.ranges.flatMap fun r =>
      (List.range (r.2 + 1 - r.1)).map fun i =>
        { bytes := String.utf8EncodeChar (Char.ofNat (r.1 + i)) }

/-- Starts of the one and of the other. When there are too many, they are cut short first. -/
def either (s t : Starts) : Starts :=
  match s, t with
  | some s, some t =>
    if s.length + t.length ≤ maxCount then some (Start.merge (s ++ t))
    else
      let s := Start.merge (s.map (Start.cut 4))
      let t := Start.merge (t.map (Start.cut 4))
      if s.length + t.length ≤ maxCount then some (Start.merge (s ++ t)) else none
  | _, _ => none

/-- Starts of the one, with those of the other behind the whole ones. -/
def followed (s t : Starts) : Starts :=
  match s with
  | none => none
  | some starts =>
    match t.filter fun t => starts.length * t.length ≤ maxCount with
    | none =>
      if starts.any fun start => start.bytes.isEmpty then none else cut maxLength (opened s)
    | some t =>
      cut maxLength <| some <| Start.merge <| starts.flatMap fun a =>
        if a.isWhole then
          t.map fun b => { bytes := a.bytes ++ b.bytes, isWhole := b.isWhole }
        else [a]

/-- Starts so many times one behind the other. -/
def times (s : Starts) : Nat → Starts
  | 0 => bare
  | n + 1 =>
    let before := times s n
    if before.isOpen then before else followed before s

/-- The starts of a repetition. -/
def repeated (s : Starts) (least : Nat) (most : Option Nat) (greedy : Bool) : Starts :=
  if least == 0 then
    let s := if most == some 1 then s else opened s
    if greedy then either s bare else either bare s
  else
    let starts := times s (min least maxRepetitions)
    if most == some least && least ≤ maxRepetitions then starts else opened starts

end Starts

mutual

/-- What matches of the pattern start with. -/
def starts : Pattern → Starts
  | nothing | look _ => .bare
  | literal text => .ofText text
  | oneOf s _ => .ofSet s
  | sequence parts => startsOfAll parts .bare
  | choice branches => startsOfAny branches (some [])
  | repeated inner least most greedy => inner.starts.repeated least most greedy
  | remembered inner => inner.starts

/-- What matches of all patterns start with, behind others. -/
def startsOfAll : List Pattern → (others : Starts) → Starts
  | [], others => others
  | p :: ps, others =>
    if others.isOpen then others else startsOfAll ps (others.followed p.starts)

/-- What matches of one of the patterns start with, besides others. -/
def startsOfAny : List Pattern → (others : Starts) → Starts
  | [], others => others
  | p :: ps, others => if others.isNone then none else startsOfAny ps (others.either p.starts)

end

/-! ### Texts to look for -/

/-- The bytes that are seldom enough to be looked for by themselves, as closed ranges. -/
def seldomBytes : List (Nat × Nat) :=
  [(0x00, 0x09), (0x0B, 0x0C), (0x0E, 0x1F), (0x21, 0x27), (0x2A, 0x2B), (0x33, 0x38),
    (0x3B, 0x5E), (0x60, 0x60), (0x6A, 0x6B), (0x71, 0x71), (0x77, 0x77), (0x7A, 0x7B),
    (0x7D, 0x7F), (0x85, 0x8F), (0x91, 0xB0), (0xB2, 0xB4), (0xB8, 0xB8), (0xBE, 0xBE)]

/-- The starts that are looked for: those that are preferred, or what they begin with if that is
expected to be found faster. -/
def Start.searched (starts : List Start) : List Start :=
  let kept := preferred starts
  let front := common kept
  let isSeldom := front.head?.any fun b => Text.inRanges seldomBytes b.toNat
  if 1 < starts.length && front.length ≤ 3 && isSeldom then merge (kept.map (cut 1))
  else if 4 < front.length || (1 < front.length && !(kept.all (·.isWhole) && kept.length ≤ 16)) then
    merge (kept.map (cut front.length))
  else kept

mutual

/-- Whether nothing is asked of a place and no match is remembered. -/
def isPlain : Pattern → Bool
  | nothing | literal _ | oneOf _ _ => true
  | look _ | remembered _ => false
  | sequence ps | choice ps => arePlain ps
  | repeated inner _ _ _ => inner.isPlain

/-- Whether no pattern asks something of a place or remembers a match. -/
def arePlain : List Pattern → Bool
  | [] => true
  | p :: ps => p.isPlain && arePlain ps

end

/-- Whether the pattern is looked for as a choice between texts. -/
def isTexts (p : Pattern) : Bool :=
  match Starts.either (some []) p.starts with
  | none => false
  | some starts =>
    p.isPlain && !starts.isEmpty && (starts.all fun s => !s.bytes.isEmpty) &&
      (Start.searched starts).all (·.isWhole)

end CommitGate.Pattern
