import CommitGate.Pattern.ByteRange
import CommitGate.Pattern.Parts
import CommitGate.Text.Utf8
import Std.Data.TreeMap

/-!
# The room of machines

A pattern is looked for by a machine that reads bytes, and by a second one that reads them from the
end. A machine is built state by state, from the parts of the pattern; a part that is repeated so
many times is built so many times. Of a machine only the number of its states and the room of the
ways between them are kept here. A state has its number, which is that of the states before it.

The states for a set of characters beyond ASCII are shared where they are alike. What has been built
for the set is kept in a table with so many slots, and what comes to a slot takes the place of what
was there; so now and then a state is built again, depending on the numbers of states.
-/

namespace CommitGate.Pattern

/-! ### Machines -/

/-- A machine, as far as its room goes. -/
structure Machine where
  states : Nat := 0
  /-- The room of the ways that are kept outside of states. -/
  ways : Nat := 0
deriving DecidableEq, Repr

/-- The greatest room of a machine. -/
def maxRoom : Nat := 10485760

/-- The room of a state. -/
def stateRoom : Nat := 32

/-- The room of a way to a state that is taken on a byte of a range. -/
def byteWay : Nat := 8

/-- The room of a way to a state that is taken without a byte. -/
def freeWay : Nat := 4

namespace Machine

/-- The room of a machine. -/
def room (m : Machine) : Nat := m.states * stateRoom + m.ways

/-- The machine with more states and ways, or `none` if that takes too much room. -/
def add (m : Machine) (states ways : Nat) : Option Machine :=
  let m : Machine := { states := m.states + states, ways := m.ways + ways }
  if m.room ≤ maxRoom then some m else none

/-- The machine with a step done so many times. -/
def repeated (step : Machine → Option Machine) : Nat → Machine → Option Machine
  | 0, m => some m
  | n + 1, m =>
    match step m with
    | none => none
    | some m => repeated step n m

end Machine

/-- The way in which a machine reads. -/
inductive Direction where
  | forward
  | backward
deriving DecidableEq, Repr

/-! ### Tables of states -/

/-- The states that were built for a set, with what they are for, by slot. -/
abbrev Known (α : Type) := Std.TreeMap Nat (α × Nat)

/-- The number of slots in the table of a machine that reads in a direction. -/
def Direction.slots : Direction → Nat
  | forward => 10000
  | backward => 1000

/-- What numbers are mixed with. -/
def mixSeed : UInt64 := 14695981039346656037

/-- What numbers are mixed by. -/
def mixFactor : UInt64 := 1099511628211

/-- The slot of something that has these numbers. -/
def Direction.slot (d : Direction) (numbers : List Nat) : Nat :=
  let mixed := numbers.foldl (fun h n => (h ^^^ n.toUInt64) * mixFactor) mixSeed
  mixed.toNat % d.slots

/-- A machine with the states that were built for a set. -/
structure Building (α : Type) where
  machine : Machine
  known : Known α := {}

/-- The number of a state for something that belongs into a slot. It is built with so much room for
its ways, unless it is found in its slot. -/
def Building.state {α : Type} [BEq α] (b : Building α) (slot : Nat) (x : α) (ways : Nat) :
    Option (Nat × Building α) :=
  let build (_ : Unit) : Option (Nat × Building α) :=
    (b.machine.add 1 ways).map fun machine =>
      (b.machine.states, { machine, known := b.known.insert slot (x, b.machine.states) })
  match b.known[slot]? with
  | some (y, n) => if y == x then some (n, b) else build ()
  | none => build ()

/-! ### Sets -/

/-- A way to a state that is taken on a byte of a range. -/
structure Way where
  range : ByteRange
  next : Nat
deriving DecidableEq, Repr

/-- The numbers of a way. -/
def Way.numbers (w : Way) : List Nat := [w.range.first, w.range.last, w.next]

/-- The number of a state from where runs lead to a target, each of at most so many bytes. Runs that
start with the same range share the way on it. The states behind it are built before it. -/
def Building.stateForRuns (target : Nat) :
    (bytes : Nat) → List (List ByteRange) → Building (List Way) →
      Option (Nat × Building (List Way))
  | 0, _, b => some (target, b)
  | bytes + 1, runs, b => do
    let groups := runs.splitBy fun x y => x.head? == y.head?
    let (ways, b) ← groups.foldlM
      (fun (ways, b) group =>
        match group with
        | (range :: rest) :: _ =>
          if rest.isEmpty then some ({ range, next := target : Way } :: ways, b)
          else
            (b.stateForRuns target bytes (group.map List.tail)).map fun (next, b) =>
              ({ range, next : Way } :: ways, b)
        | _ => some (ways, b))
      (([], b) : List Way × Building (List Way))
    let ways := ways.reverse
    b.state (Direction.forward.slot (ways.flatMap Way.numbers)) ways (ways.length * byteWay)

/-- The number of a state from where a run leads to a target when it is read from its last byte on.
The states are built from the first byte on; runs that start alike share them. -/
def Building.stateForRun (target : Nat) (run : List ByteRange) (b : Building Way) :
    Option (Nat × Building Way) :=
  run.foldlM
    (fun (next, b) range =>
      b.state (Direction.backward.slot [next, range.first, range.last]) { range, next } 0)
    (target, b)

namespace Machine

/-- The machine with the states for a set. -/
def addSet (d : Direction) (s : CharSet) (m : Machine) : Option Machine :=
  if s.ranges.all fun r => r.2 < 0x80 then m.add 2 (s.ranges.length * byteWay)
  else
    match d with
    | .forward => do
      let built ← m.add 1 0
      let (_, b) ← ({ machine := built } : Building (List Way)).stateForRuns m.states 4 s.runs
      return b.machine
    | .backward => do
      let runs := s.runs
      let built ← m.add 2 (runs.length * freeWay)
      let b ← runs.foldlM
        (fun b run => (b.stateForRun (m.states + 1) run).map (·.2))
        ({ machine := built } : Building Way)
      return b.machine

/-! ### Texts to choose from -/

/-- The states, and the room of their ways, of a machine for a choice between texts. Each list holds
the texts that are to be read from a state on, in the order in which they are preferred. The texts
that have been read to the end divide the others, which share their first byte only with those of
the same division. -/
def choiceCost : (fuel : Nat) → List (List Bytes) → (states ways : Nat) → Nat × Nat
  | 0, _, states, ways => (states, ways)
  | _ + 1, [], states, ways => (states, ways)
  | fuel + 1, texts :: others, states, ways =>
    let ended := (texts.takeWhile List.isEmpty).length
    let divisions := (texts.drop (ended - 1)).splitOnP List.isEmpty
    let groups := divisions.map fun texts =>
      (texts.filterMap List.head?).eraseDups.map fun first =>
        (texts.filter fun t => t.head? == some first).map List.tail
    let filled := groups.filter fun g => !g.isEmpty
    let room := filled.foldl (fun n g => if g.length == 1 then n else n + g.length * byteWay) 0
    let behind := groups.flatten.filter fun texts => texts.any fun t => !t.isEmpty
    choiceCost fuel (behind ++ others) (states + filled.length + 1)
      (ways + room + (filled.length + divisions.length - 1) * freeWay)

/-- The machine with the states for a choice between texts. -/
def addTexts (d : Direction) (texts : List (List Char)) (m : Machine) : Option Machine :=
  let texts := texts.map fun t =>
    match d with
    | .forward => Text.toBytes t
    | .backward => (Text.toBytes t).reverse
  let (states, ways) := choiceCost (texts.flatten.length + 1) [texts] 1 0
  m.add states ways

end Machine

/-! ### Patterns -/

mutual

/-- The pattern with its sequences turned around. -/
def mirror : Pattern → Pattern
  | sequence parts => sequence (mirrorOnto parts [])
  | choice branches => choice (mirrorOnto branches []).reverse
  | repeated inner least most greedy => repeated inner.mirror least most greedy
  | remembered inner => remembered inner.mirror
  | p => p

/-- Patterns turned around, the last one first, in front of others. -/
def mirrorOnto : List Pattern → (others : List Pattern) → List Pattern
  | [], others => others
  | p :: ps, others => mirrorOnto ps (p.mirror :: others)

end

mutual

/-- The machine with the states for a pattern. Matches are remembered by the machine that reads from
the start. A repetition without end has a state that goes back to its part, and a second one before
the part if that may take nothing; one with an end has a state before each part that may be left
out. -/
def build (d : Direction) : Pattern → Machine → Option Machine
  | nothing, m => m.add 1 0
  | literal text, m => m.add (Text.byteLength text) 0
  | oneOf s _, m => m.addSet d s
  | look _, m => m.add 1 0
  | sequence parts, m => buildAll d parts m
  | choice branches, m =>
    match branches.mapM text? with
    | some texts => m.addTexts d texts
    | none => buildEach d branches 0 m
  | repeated inner least most _, m =>
    let one := inner.build d
    match least, most with
    | 0, none =>
      if inner.shortest.any (0 < ·) then (m.add 1 (2 * freeWay)).bind one
      else (one m).bind fun m => m.add 3 (4 * freeWay)
    | least, none => (Machine.repeated one least m).bind fun m => m.add 1 (2 * freeWay)
    | 0, some 1 => ((m.add 1 (2 * freeWay)).bind one).bind fun m => m.add 1 0
    | least, some most =>
      if least == most then Machine.repeated one least m
      else do
        let m ← if least == 0 then m.add 1 0 else Machine.repeated one least m
        let m ← m.add 1 0
        Machine.repeated (fun m => (m.add 1 (2 * freeWay)).bind one) (most - least) m
  | remembered inner, m =>
    match d with
    | .forward => ((m.add 1 0).bind (inner.build d)).bind fun m => m.add 1 0
    | .backward => inner.build d m

/-- The machine with the states for patterns one behind the other. -/
def buildAll (d : Direction) : List Pattern → Machine → Option Machine
  | [], m => some m
  | p :: ps, m =>
    match p.build d m with
    | none => none
    | some m => buildAll d ps m

/-- The machine with the states for patterns to choose from, of which so many have been built. The
state where they part and the one where they meet are built behind the second. -/
def buildEach (d : Direction) : List Pattern → (built : Nat) → Machine → Option Machine
  | [], _, m => some m
  | p :: ps, built, m =>
    let join (m : Machine) : Option Machine :=
      match built with
      | 0 => some m
      | 1 => m.add 2 (2 * freeWay)
      | _ => m.add 0 freeWay
    match (p.build d m).bind join with
    | none => none
    | some m => buildEach d ps (built + 1) m

end

/-- The machine that looks for a pattern. It starts anywhere, unless matches have to start where the
text does. What is around the pattern is remembered like a part of it. -/
def machine? (p : Pattern) (d : Direction) : Option Machine := do
  let (p, edge) :=
    match d with
    | .forward => (remembered p, Look.textStart)
    | .backward => (p.mirror, Look.textEnd)
  let m ← if p.asksFirst edge then Machine.add {} 1 0 else Machine.add {} 3 (byteWay + 2 * freeWay)
  let m ← p.build d m
  m.add 1 0

end CommitGate.Pattern
