import CommitGate.Pattern.Machine
import CommitGate.Pattern.Meaning
import CommitGate.Pattern.Reader
import CommitGate.Pattern.Starts

/-!
# Which patterns are taken

A pattern is refused if it has a fault, if a machine that would look for it takes too much room, or
if it asks for edges of words beyond ASCII. Where texts are looked for instead, no machine is built.
-/

namespace CommitGate.Pattern

/-! ### Edges of words -/

mutual

/-- Whether the pattern asks for edges of words beyond ASCII. -/
def asksWide : Pattern → Bool
  | look (.word _ wide) => wide
  | nothing | literal _ | oneOf _ _ | look _ => false
  | sequence ps | choice ps => anyAsksWide ps
  | repeated inner _ _ _ => inner.asksWide
  | remembered inner => inner.asksWide

/-- Whether one of the patterns asks for edges of words beyond ASCII. -/
def anyAsksWide : List Pattern → Bool
  | [] => false
  | p :: ps => p.asksWide || anyAsksWide ps

end

/-! ### Patterns from texts -/

/-- Why a pattern is refused. -/
inductive Refusal where
  | faulty (text : List Char) (fault : Fault)
  | tooLarge
  /-- It asks for edges of words beyond ASCII. -/
  | wideWords
deriving DecidableEq, Repr

/-- The refusal in words. -/
def Refusal.message : Refusal → String
  | faulty text fault => fault.describe text
  | tooLarge => "Compiled regex exceeds size limit of " ++ toString maxRoom ++ " bytes."
  | wideWords => "error building NFA"

/-- Why no machine is built for a pattern, if there is a reason. -/
def refusal? (p : Pattern) : Option Refusal :=
  if (p.machine? .forward).isNone then some .tooLarge
  else if p.asksWide then some .wideWords
  else if (p.machine? .backward).isNone then some .tooLarge
  else none

/-- The pattern that a text stands for. -/
def ofText (text : List Char) : Except Refusal Pattern :=
  match (Tree.ofText text).bind fun tree => tree.meaning {} with
  | .error fault => .error (.faulty text fault)
  | .ok (p, _) =>
    match p.refusal? with
    | none => .ok p
    | some refusal => if p.isTexts then .ok p else .error refusal

end CommitGate.Pattern
