import CommitGate.Address.Basic
import CommitGate.Job
import CommitGate.ServerError

/-!
# Errors of calls

Why a call has no result, and what is told about that. Errors of the job that a call is run as tell
themselves; in which words the others are told is up to the library that they come from, so that is
given (`Account`).
-/

namespace CommitGate

open Json (Refusal)

/-- Why a call has no result. -/
inductive CallError where
  /-- The job ended without a result. -/
  | job (e : JobError)
  /-- The route of the commit is no address. -/
  | badRoute (e : AddressError)
  /-- There is no whole response. -/
  | unanswered
  /-- The request succeeded and the body is no combined status. -/
  | undecodable (refusal : Refusal)
  /-- The request failed and the body does not say why. -/
  | unexplained (refusal : Refusal)
  /-- The request failed, with this status. -/
  | rejected (status : Nat) (e : ServerError)

/-- What the library that makes requests tells about an error of its own. -/
structure Account where
  /-- The error in words. -/
  text : String := ""
  /-- What caused it, the nearest first. -/
  causes : List String := []
deriving DecidableEq, Repr

/-- What is told about an error, the nearest cause first: the error itself, and what caused it. -/
def CallError.causes (account : CallError → Account) (e : CallError) : List String :=
  match e with
  | job e => [e.message, e.cause]
  | badRoute _ | unanswered | undecodable _ | unexplained _ | rejected .. =>
    let told := account e
    ("Octocrab error: " ++ told.text) :: told.text :: told.causes

end CommitGate
