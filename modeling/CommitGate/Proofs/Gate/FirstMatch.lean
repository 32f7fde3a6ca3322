import CommitGate.Proofs.Gate
import Mathlib.Logic.Relation

/-!
# The first entry for the context decides alone

The outcome is a function of the first entry for the required context (`Outcome.ofDeciding`), and of
nothing else in the list: whatever edit leaves that entry the first one (`Edit`) leaves the outcome as
it is. All of it is put together in `evaluate_by_first_match`.
-/

namespace CommitGate

open Status (Combined Entry State)
open Relation (EqvGen)

/-- The outcome that an entry with this state stands for. -/
def Outcome.ofDeciding (required : String) : (state : Option String) → Outcome
  | none => .missing required
  | some s => if s = "success" then .passed required else .notSuccessful required (State.ofText s)

/-- The entries for a context, in their order. -/
def entriesFor (required : String) (statuses : List Entry) : List Entry :=
  statuses.filter fun e => e.context == some required

/-- **An edit that spares the deciding entry.** -/
inductive Edit (required : String) : List Entry → List Entry → Prop
  /-- What stands behind an entry for the context is replaced. -/
  | behind (front : List Entry) {e : Entry} (he : e.context = some required)
    (behind behind' : List Entry) : Edit required (front ++ e :: behind) (front ++ e :: behind')
  /-- An entry for another context, or for none, is put in; backwards, it is taken out. -/
  | insert (front behind : List Entry) {other : Entry} (hother : other.context ≠ some required) :
    Edit required (front ++ behind) (front ++ other :: behind)
  /-- Entries change places, but those for the context not among themselves. -/
  | permute {statuses statuses' : List Entry} (hperm : statuses.Perm statuses')
    (hsame : entriesFor required statuses = entriesFor required statuses') :
    Edit required statuses statuses'

section Edits

variable {required : String} {statuses statuses' : List Entry}

theorem findRequired_eq_head? (statuses : List Entry) (required : String) :
    findRequired statuses required = (entriesFor required statuses).head? := by
  rw [findRequired, entriesFor, List.head?_filter]

theorem findRequired_eq_none_iff :
    findRequired statuses required = none ↔ ∀ d ∈ statuses, d.context ≠ some required := by
  simp [findRequired, List.find?_eq_none]

/-- One edit leaves the entry that is found. -/
theorem Edit.findRequired_eq (h : Edit required statuses statuses') :
    findRequired statuses' required = findRequired statuses required := by
  rw [findRequired_eq_head?, findRequired_eq_head?]
  cases h with
  | behind front he => simp [entriesFor, List.filter_append, List.filter_cons_of_pos, he]
  | insert front behind hother => simp [entriesFor, List.filter_append, List.filter_cons_of_neg, hother]
  | permute hperm hsame => rw [hsame]

/-- So do any number of edits, made or taken back. -/
theorem findRequired_eq_of_edits (h : EqvGen (Edit required) statuses statuses') :
    findRequired statuses' required = findRequired statuses required := by
  induction h with
  | rel _ _ edit => exact edit.findRequired_eq
  | refl _ => rfl
  | symm _ _ _ ih => exact ih.symm
  | trans _ _ _ _ _ ih ih' => exact ih'.trans ih

/-- The entry that is found says what the outcome is. -/
theorem evaluate_eq_ofDeciding (combined : Combined) (required : String) :
    evaluate combined required =
      Outcome.ofDeciding required ((findRequired combined.statuses required).bind Entry.state) := by
  unfold evaluate Outcome.ofDeciding
  rcases findRequired combined.statuses required with _ | ⟨context, _ | s⟩
  · rfl
  · rfl
  · simp only [Option.bind_some, Entry.state?, Option.map_some]
    split
    · next h => rw [if_pos (State.ofText_eq_success_iff.1 (Option.some.inj h))]
    · next state hne h =>
      obtain rfl := Option.some.inj h
      rw [if_neg (mt State.ofText_eq_success_iff.2 hne)]
    · next h => cases h

theorem context_ofDeciding (required : String) (state : Option String) :
    (Outcome.ofDeciding required state).context = required := by
  unfold Outcome.ofDeciding
  repeat' split
  all_goals rfl

theorem evaluate_context (combined : Combined) (required : String) :
    (evaluate combined required).context = required := by
  rw [evaluate_eq_ofDeciding, context_ofDeciding]

end Edits

/-- **The first entry for the required context decides alone.** Where there is one, it is found, and
its state is the outcome, whatever stands behind it; where there is none, nothing is found and the
status is missing. An entry is for a context just if it names the same code points. The outcome is
about the required context, and no edit that spares the deciding entry changes it. -/
theorem evaluate_by_first_match (statuses : List Entry) (required : String) :
    (∀ front e behind, statuses = front ++ e :: behind → (∀ d ∈ front, d.context ≠ some required) →
        e.context = some required → findRequired statuses required = some e ∧
          evaluate { statuses } required = .ofDeciding required e.state) ∧
      ((∀ d ∈ statuses, d.context ≠ some required) → findRequired statuses required = none ∧
        evaluate { statuses } required = .missing required) ∧
      (∀ e : Entry, findRequired [e] required = some e ↔
        ∃ name, e.context = some name ∧ name.toList = required.toList) ∧
      (evaluate { statuses } required).context = required ∧
      ∀ statuses', EqvGen (Edit required) statuses statuses' →
        findRequired statuses' required = findRequired statuses required ∧
          evaluate { statuses := statuses' } required = evaluate { statuses } required := by
  refine ⟨fun front e behind hsplit hfront he => ?_, fun hnone => ?_, fun e => ?_,
    evaluate_context _ _, fun statuses' h => ?_⟩
  · have hfound : findRequired statuses required = some e :=
      findRequired_eq_some_iff.2 ⟨front, behind, hsplit, hfront, he⟩
    exact ⟨hfound, by rw [evaluate_eq_ofDeciding, hfound]; rfl⟩
  · have hfound := findRequired_eq_none_iff.2 hnone
    exact ⟨hfound, by rw [evaluate_eq_ofDeciding, hfound]; rfl⟩
  · simp only [String.toList_inj, exists_eq_right]
    simp [findRequired, List.find?_singleton]
  · have hfound := findRequired_eq_of_edits h
    exact ⟨hfound, by simp only [evaluate_eq_ofDeciding, hfound]⟩

/-- A failure in front of a success, with an entry for no context before both. -/
theorem evaluate_of_earlier_failure :
    let failed : Entry := { context := some "ci/build", state := some "failure" }
    let statuses : List Entry :=
      [{ state := some "success" }, failed, { context := some "ci/build", state := some "success" }]
    findRequired statuses "ci/build" = some failed ∧
      evaluate { statuses } "ci/build" = .notSuccessful "ci/build" .failure := by
  intro failed statuses
  have h := (evaluate_by_first_match statuses "ci/build").1 [{ state := some "success" }] failed
    [{ context := some "ci/build", state := some "success" }] rfl (by decide) rfl
  exact h

end CommitGate
