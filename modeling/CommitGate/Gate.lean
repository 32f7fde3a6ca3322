import CommitGate.Status.Combined

/-!
# The gate

A commit passes if the required status context has succeeded on it. The first entry with that
context decides, whatever comes after it; an entry without a state counts as no entry.
-/

namespace CommitGate

open Status (Combined Entry State)

/-- What the gate decides for a required context. -/
inductive Outcome where
  | passed (context : String)
  /-- The context has reported no state. -/
  | missing (context : String)
  /-- The context has another state. -/
  | notSuccessful (context : String) (state : State)
deriving DecidableEq, Repr

namespace Outcome

/-- The context that was required. -/
def context : Outcome → String
  | passed c | missing c | notSuccessful c _ => c

/-- Whether the commit passes. -/
def isSuccess : Outcome → Bool
  | passed _ => true
  | _ => false

/-- The exit code that reports the outcome. -/
def exitCode : Outcome → UInt8
  | passed _ => 0
  | missing _ | notSuccessful .. => 1

/-- The line that reports the outcome. -/
def line : Outcome → String
  | passed c => c ++ " is success"
  | missing c => "Missing required local status: " ++ c
  | notSuccessful c s => "Local status " ++ c ++ " is '" ++ s.toText ++ "', expected 'success'"

/-- The outcome as log records show it. -/
def describe : Outcome → String
  | passed c => "Passed \x7b context: " ++ Text.quote c ++ " \x7d"
  | missing c => "Missing \x7b context: " ++ Text.quote c ++ " \x7d"
  | notSuccessful c s =>
    "NotSuccessful \x7b context: " ++ Text.quote c ++ ", state: " ++ s.describe ++ " \x7d"

end Outcome

/-- The first entry for a context. -/
def findRequired (statuses : List Entry) (required : String) : Option Entry :=
  statuses.find? fun e => e.context == some required

/-- The outcome for a required context. -/
def evaluate (combined : Combined) (required : String) : Outcome :=
  match (findRequired combined.statuses required).bind Entry.state? with
  | some .success => .passed required
  | some state => .notSuccessful required state
  | none => .missing required

end CommitGate
