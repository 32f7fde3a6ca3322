import CommitGate.Gate

/-!
# The entry that decides

Of the entries for the required context the first decides, and no other one has a say:

* `findRequired_eq_some_iff` — the entry that is found has none for the context before it;
* `evaluate_eq_passed_iff` — the commit passes just if that entry is there and has succeeded;
* `Outcome.exitCode_eq_zero_iff` — the exit code is zero just if the commit passes.
-/

namespace CommitGate

open Status (Combined Entry State)

/-- **The entry is the first for the context**: it has that context, and no entry before it has. -/
def IsFirst (statuses : List Entry) (required : String) (e : Entry) : Prop :=
  ∃ front behind, statuses = front ++ e :: behind ∧ (∀ d ∈ front, d.context ≠ some required) ∧
    e.context = some required

theorem findRequired_eq_some_iff {statuses : List Entry} {required : String} {e : Entry} :
    findRequired statuses required = some e ↔ IsFirst statuses required e := by
  rw [findRequired, List.find?_eq_some_iff_append]
  constructor
  · rintro ⟨he, front, behind, rfl, hfront⟩
    exact ⟨front, behind, rfl, fun d hd => by simpa using hfront d hd, by simpa using he⟩
  · rintro ⟨front, behind, rfl, hfront, he⟩
    exact ⟨by simpa using he, front, behind, rfl, fun d hd => by simpa using hfront d hd⟩

theorem Status.State.ofText_eq_success_iff {s : String} : State.ofText s = .success ↔ s = "success" := by
  constructor
  · intro h
    rw [← State.toText_ofText s, h]
    rfl
  · rintro rfl
    rfl

theorem Status.Entry.state?_eq_success_iff {e : Entry} :
    e.state? = some .success ↔ e.state = some "success" := by
  rw [Entry.state?, Option.map_eq_some_iff]
  simp only [State.ofText_eq_success_iff, exists_eq_right]

/-- What the gate decides is the state of the entry that decides. -/
theorem evaluate_eq_passed_iff_state {combined : Combined} {required context : String} :
    evaluate combined required = .passed context ↔
      context = required ∧
        (findRequired combined.statuses required).bind Entry.state? = some .success := by
  rw [evaluate]
  split
  · next h => simp [h, eq_comm]
  · next state hne h =>
    simp only [reduceCtorEq, h, Option.some.injEq, false_iff, not_and]
    exact fun _ => hne
  · next h => simp [h]

/-- **A commit passes** just if the first entry for the required context has succeeded. -/
theorem evaluate_eq_passed_iff {combined : Combined} {required context : String} :
    evaluate combined required = .passed context ↔
      context = required ∧
        ∃ e, IsFirst combined.statuses required e ∧ e.state = some "success" := by
  rw [evaluate_eq_passed_iff_state, Option.bind_eq_some_iff]
  simp only [findRequired_eq_some_iff, Status.Entry.state?_eq_success_iff]

theorem Outcome.exitCode_eq_zero_iff {o : Outcome} : o.exitCode = 0 ↔ ∃ c, o = .passed c := by
  cases o <;> simp [exitCode]

end CommitGate
