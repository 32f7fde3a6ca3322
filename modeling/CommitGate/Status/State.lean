import CommitGate.Text.Quoted

/-!
# States of a status

The state that a status context has on a commit: one of four known words, or any other text, which
is kept as it is. The words are told apart by case.
-/

namespace CommitGate.Status

/-- The state of a status context. -/
inductive State where
  | success
  /-- The context has not finished. -/
  | pending
  | failure
  /-- The context could not be run. -/
  | error
  | other (text : String)
deriving DecidableEq, Repr

namespace State

/-- The state with a name. -/
def ofText (s : String) : State :=
  if s = "success" then success
  else if s = "pending" then pending
  else if s = "failure" then failure
  else if s = "error" then error
  else other s

/-- The name of a state, which is also how the state is printed. -/
def toText : State → String
  | success => "success"
  | pending => "pending"
  | failure => "failure"
  | error => "error"
  | other s => s

/-- Whether the context succeeded. A state is a success by its kind, not by its name. -/
def isSuccess : State → Bool
  | success => true
  | _ => false

/-- A state as log records show it. -/
def describe : State → String
  | success => "Success"
  | pending => "Pending"
  | failure => "Failure"
  | error => "Error"
  | other s => "Other(" ++ Text.quote s ++ ")"

@[simp] theorem toText_ofText (s : String) : (ofText s).toText = s := by
  unfold ofText
  repeat' split
  all_goals simp_all [toText]

end State

end CommitGate.Status
