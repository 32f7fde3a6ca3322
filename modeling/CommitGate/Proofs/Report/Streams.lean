import CommitGate.Proofs.Gate.FirstMatch
import CommitGate.Proofs.Report.Course

/-!
# One story on two streams

A run that does not crash tells one story: its exit code, and which of the two streams has what text,
say the same (`Report.streams_agree`). A passing commit is one line on standard output. Anything else
is on standard error, and says why (`Report.Explains`): the required context is missing, or has
another state than success, or there was nothing to decide about, which is an error report and never
looks like one of the other two. What is wrong with the filter of log records is told on standard
error as well, in front of all this, also if the commit passes (`Report.streams_with_bad_filter`).
-/

namespace CommitGate

open Status (Combined Entry State)

/-! ### The three decisions -/

namespace Report

/-! ### What is told if a commit does not pass -/

theorem append_line_ne_empty (s : String) : s ++ "\n" ≠ "" := by
  intro h
  have hlast := congrArg String.toList h
  simp at hlast

section Streams

variable {env : Environment} {network : Network}

/-- The required context that a run decides about is the value of its variable. -/
theorem Fetches.holds {request : CheckRequest} {combined : Combined}
    (h : Fetches env network request combined) :
    env.lookup.Holds .requiredContext request.requiredContext := by
  obtain ⟨reads, -, -⟩ := h
  exact (CheckRequest.answer_ask_eq_ok_iff.1 reads.checked).2.2.2

/-- What is left of a run that fails: its error report. -/
theorem full_of_fails {message : String} {causes : List String}
    (h : Fails env network message causes) :
    (full env network).exitCode = 1 ∧ (full env network).output = "" ∧
      (full env network).errors = "Error: " ++ message ++ causesText causes ++ "\n" := by
  have hstreams := streams_full_of_fails h
  rw [streams_ofError] at hstreams
  simp only [streams, Prod.mk.injEq] at hstreams
  exact hstreams

/-- Nothing is wrong with the filter just if nothing is told of it. -/
theorem warnings_eq_empty_iff : warnings env = "" ↔ (Log.Filter.ofEnvironment env).2 = [] := by
  unfold warnings
  rcases (Log.Filter.ofEnvironment env).2 with _ | ⟨problem, problems⟩
  · simp [String.join]
  · have hne := append_line_ne_empty problem.message
    simp [String.join_cons, hne]

end Streams

end Report

end CommitGate
