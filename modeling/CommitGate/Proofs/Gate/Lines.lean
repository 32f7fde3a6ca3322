import CommitGate.Proofs.Gate.FirstMatch

/-!
# Lines tell outcomes

For one required context, the line of an outcome tells its kind, and of an outcome that is not
successful the text of its state, whatever the context and the text look like. The gate makes one
state of one text, so its decision, and the state of the entry that decides, can be told from the
line (`line_evaluate_eq_iff`). The required context cannot.
-/

namespace CommitGate

open Status (Combined Entry State)

namespace Outcome

section Lines

variable {context context' : String} {state state' : State}

/-- With one context, the two lines differ in length. -/
theorem line_passed_ne_missing (context : String) :
    (passed context).line ≠ (missing context).line := by
  intro h
  have hpassed : (passed context).line.length = context.length + 11 := String.length_append ..
  have hmissing : (missing context).line.length = 31 + context.length := String.length_append ..
  have hlength := congrArg String.length h
  omega

/-- The one line ends in a letter and the other in a quotation mark. -/
theorem line_passed_ne_notSuccessful :
    (passed context).line ≠ (notSuccessful context' state).line := by
  intro h
  unfold line at h
  have hlast := congrArg (fun s => s.toList.reverse.head?) h
  simp at hlast

/-- The two lines have different first letters. -/
theorem line_missing_ne_notSuccessful :
    (missing context).line ≠ (notSuccessful context' state).line := by
  intro h
  unfold line at h
  have hhead := congrArg (fun s => s.toList.head?) h
  simp at hhead

theorem line_notSuccessful_inj :
    (notSuccessful context state).line = (notSuccessful context state').line ↔
      state.toText = state'.toText := by
  unfold line
  rw [String.append_left_inj, String.append_right_inj]

end Lines

/-- The three kinds of outcomes that an entry can stand for. -/
theorem ofDeciding_cases (required : String) (state : Option String) :
    (state = none ∧ ofDeciding required state = .missing required) ∨
      (state = some "success" ∧ ofDeciding required state = .passed required) ∨
      ∃ s, state = some s ∧ ofDeciding required state = .notSuccessful required (State.ofText s) := by
  rcases state with _ | s
  · exact .inl ⟨rfl, rfl⟩
  by_cases hs : s = "success"
  · right; left
    rw [hs]
    exact ⟨rfl, rfl⟩
  · right; right
    exact ⟨s, rfl, if_neg hs⟩

/-- **The state of the entry that decides can be told from the line**, as long as the required context
is known. -/
theorem line_ofDeciding_inj {required : String} {state state' : Option String} :
    (ofDeciding required state).line = (ofDeciding required state').line ↔ state = state' := by
  refine ⟨fun h => ?_, fun h => by rw [h]⟩
  rcases ofDeciding_cases required state with ⟨hstate, ho⟩ | ⟨hstate, ho⟩ | ⟨s, hstate, ho⟩
  · rcases ofDeciding_cases required state' with ⟨hstate', ho'⟩ | ⟨hstate', ho'⟩ | ⟨s', hstate', ho'⟩
    · rw [hstate, hstate']
    · rw [ho, ho'] at h
      exact absurd h.symm (line_passed_ne_missing required)
    · rw [ho, ho'] at h
      exact absurd h line_missing_ne_notSuccessful
  · rcases ofDeciding_cases required state' with ⟨hstate', ho'⟩ | ⟨hstate', ho'⟩ | ⟨s', hstate', ho'⟩
    · rw [ho, ho'] at h
      exact absurd h (line_passed_ne_missing required)
    · rw [hstate, hstate']
    · rw [ho, ho'] at h
      exact absurd h line_passed_ne_notSuccessful
  · rcases ofDeciding_cases required state' with ⟨hstate', ho'⟩ | ⟨hstate', ho'⟩ | ⟨s', hstate', ho'⟩
    · rw [ho, ho'] at h
      exact absurd h.symm line_missing_ne_notSuccessful
    · rw [ho, ho'] at h
      exact absurd h.symm line_passed_ne_notSuccessful
    · rw [ho, ho', line_notSuccessful_inj, State.toText_ofText, State.toText_ofText] at h
      rw [hstate, hstate', h]

end Outcome

/-- **The line of a decision tells the decision**, as long as the required context is known. Two
payloads have one line just if they have one outcome, and that is just if their deciding entries have
one state. For one context the lines of outcomes of two kinds differ, also of outcomes that the gate
does not make, and two lines about states that are no success are the same just for one text. -/
theorem line_evaluate_eq_iff (required : String) (p q : Combined) :
    ((evaluate p required).line = (evaluate q required).line ↔
        evaluate p required = evaluate q required) ∧
      (evaluate p required = evaluate q required ↔
        (findRequired p.statuses required).bind Entry.state =
          (findRequired q.statuses required).bind Entry.state) ∧
      (∀ state, (Outcome.passed required).line ≠ (Outcome.missing required).line ∧
        (Outcome.passed required).line ≠ (Outcome.notSuccessful required state).line ∧
        (Outcome.missing required).line ≠ (Outcome.notSuccessful required state).line) ∧
      ∀ state state', (Outcome.notSuccessful required state).line =
        (Outcome.notSuccessful required state').line ↔ state.toText = state'.toText := by
  have hline : (evaluate p required).line = (evaluate q required).line ↔
      (findRequired p.statuses required).bind Entry.state =
        (findRequired q.statuses required).bind Entry.state := by
    rw [evaluate_eq_ofDeciding, evaluate_eq_ofDeciding, Outcome.line_ofDeciding_inj]
  have houtcome : (findRequired p.statuses required).bind Entry.state =
      (findRequired q.statuses required).bind Entry.state →
        evaluate p required = evaluate q required := by
    intro h
    rw [evaluate_eq_ofDeciding, evaluate_eq_ofDeciding, h]
  refine ⟨⟨fun h => houtcome (hline.1 h), congrArg Outcome.line⟩,
    ⟨fun h => hline.1 (congrArg Outcome.line h), houtcome⟩, fun state => ⟨?_, ?_, ?_⟩,
    fun state state' => Outcome.line_notSuccessful_inj⟩
  · exact Outcome.line_passed_ne_missing required
  · exact Outcome.line_passed_ne_notSuccessful
  · exact Outcome.line_missing_ne_notSuccessful

-- Two contexts may share a line, and so may two states that have one text.
example : Outcome.line (.passed "Missing required local status: x") =
    Outcome.line (.missing "x is success") := by decide

example : Outcome.line (.notSuccessful "x" .pending) =
    Outcome.line (.notSuccessful "x" (.other "pending")) := by decide

end CommitGate
