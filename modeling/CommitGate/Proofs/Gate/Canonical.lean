import CommitGate.Proofs.Call
import CommitGate.Proofs.Gate

/-!
# States and their texts

A state that is read from a text has that text, and no other text gives it. There are more states than
texts, though: `other` can hold a word that names a state of its own, and then it shows as that word
and is another state. A state is canonical if it is the one that its text names:

* `State.isCanonical_iff` — that is any state but `other` of one of the four words;
* `IsCanonical.eq_iff` — canonical states are told apart by their texts;
* `evaluate_eq_notSuccessful_iff` — the gate makes the state of an outcome from the text of the entry
  that decides;
* `decided_notSuccessful_iff` — so the states that outcomes carry are the canonical ones but success.

All of it is put together in `states_canonical`.
-/

namespace CommitGate

open Status (Combined Entry State)

/-! ### Canonical states -/

namespace Status.State

/-- The texts that name a state of their own. -/
def words : List String := ["success", "pending", "failure", "error"]

/-- **The state is the one that its text names.** -/
def IsCanonical (t : State) : Prop := ofText t.toText = t

instance : DecidablePred IsCanonical := fun t => inferInstanceAs (Decidable (ofText t.toText = t))

section Texts

variable {s s' : String} {t t' : State}

theorem ofText_inj : ofText s = ofText s' ↔ s = s' := by
  constructor
  · intro h
    have htexts := congrArg toText h
    rw [toText_ofText, toText_ofText] at htexts
    exact htexts
  · intro h
    rw [h]

theorem mem_words_iff :
    s ∈ words ↔ s = "success" ∨ s = "pending" ∨ s = "failure" ∨ s = "error" := by
  simp only [words, List.mem_cons, List.not_mem_nil, or_false]

/-- A text is kept as it is just if it is none of the words. -/
theorem ofText_eq_other_iff : ofText s = .other s ↔ s ∉ words := by
  rw [mem_words_iff]
  constructor
  · intro h hword
    rcases hword with rfl | rfl | rfl | rfl
    all_goals exact absurd h (by decide)
  · intro hword
    simp only [not_or] at hword
    obtain ⟨hsuccess, hpending, hfailure, herror⟩ := hword
    unfold ofText
    rw [if_neg hsuccess, if_neg hpending, if_neg hfailure, if_neg herror]

/-- What is read from a text is canonical. -/
theorem isCanonical_ofText (s : String) : (ofText s).IsCanonical := by
  unfold IsCanonical
  rw [toText_ofText]

/-- **A state is canonical** just if it does not hold one of the words as some other text. -/
theorem isCanonical_iff : t.IsCanonical ↔ ∀ word ∈ words, t ≠ .other word := by
  cases t with
  | success | pending | failure | error =>
    refine iff_of_true rfl fun word _ h => ?_
    cases h
  | other text =>
    have hkept : (other text).IsCanonical ↔ text ∉ words := ofText_eq_other_iff
    rw [hkept]
    constructor
    · intro htext word hword h
      cases h
      exact htext hword
    · intro hnone htext
      exact hnone text htext rfl

/-- **Canonical states are told apart by their texts.** -/
theorem IsCanonical.eq_iff (h : t.IsCanonical) (h' : t'.IsCanonical) :
    t = t' ↔ t.toText = t'.toText := by
  refine ⟨congrArg toText, fun htexts => ?_⟩
  calc t = ofText t.toText := h.symm
    _ = ofText t'.toText := by rw [htexts]
    _ = t' := h'

/-- The one canonical state with the text of success is success. -/
theorem IsCanonical.toText_eq_success_iff (h : t.IsCanonical) :
    t.toText = "success" ↔ t = .success := by
  have hsuccess : success.IsCanonical := rfl
  exact (h.eq_iff hsuccess).symm

end Texts

end Status.State

/-! ### The states of outcomes -/

/-- The state of an entry is the canonical one that has its text. -/
theorem Status.Entry.state?_eq_some_iff {e : Entry} {t : State} :
    e.state? = some t ↔ t.IsCanonical ∧ e.state = some t.toText := by
  rw [Entry.state?, Option.map_eq_some_iff]
  constructor
  · rintro ⟨s, hs, rfl⟩
    rw [State.toText_ofText]
    exact ⟨State.isCanonical_ofText s, hs⟩
  · rintro ⟨hcanonical, hs⟩
    exact ⟨t.toText, hs, hcanonical⟩

section Outcomes

variable {combined : Combined} {required context : String} {t : State} {o : Outcome}

theorem evaluate_eq_notSuccessful_iff_state :
    evaluate combined required = .notSuccessful context t ↔
      context = required ∧ t ≠ .success ∧
        (findRequired combined.statuses required).bind Entry.state? = some t := by
  rw [evaluate]
  split
  · next h =>
    rw [h]
    simp [eq_comm]
  · next state hne h =>
    rw [h]
    constructor
    · intro heq
      cases heq
      exact ⟨rfl, hne, rfl⟩
    · rintro ⟨rfl, -, hstate⟩
      rw [Option.some.inj hstate]
  · next h =>
    rw [h]
    simp

/-- **A commit does not pass with a state** just if the first entry for the required context has the
text of that state, which is canonical and no success. -/
theorem evaluate_eq_notSuccessful_iff :
    evaluate combined required = .notSuccessful context t ↔
      context = required ∧ t.IsCanonical ∧ t ≠ .success ∧
        ∃ e, IsFirst combined.statuses required e ∧ e.state = some t.toText := by
  rw [evaluate_eq_notSuccessful_iff_state, Option.bind_eq_some_iff]
  simp only [findRequired_eq_some_iff, Status.Entry.state?_eq_some_iff]
  constructor
  · rintro ⟨hcontext, hne, e, hfirst, hcanonical, hstate⟩
    exact ⟨hcontext, hcanonical, hne, e, hfirst, hstate⟩
  · rintro ⟨hcontext, hcanonical, hne, e, hfirst, hstate⟩
    exact ⟨hcontext, hne, e, hfirst, hcanonical, hstate⟩

/-- The line of a state that was read tells the text that it was read from. -/
theorem Outcome.line_notSuccessful_ofText (context s : String) :
    (notSuccessful context (State.ofText s)).line =
      "Local status " ++ context ++ " is '" ++ s ++ "', expected 'success'" := by
  show "Local status " ++ context ++ " is '" ++ (State.ofText s).toText ++ "', expected 'success'" = _
  rw [State.toText_ofText]

/-- **An outcome that the gate comes to**: from a payload that is there, or at the end of a call. -/
inductive Decided : Outcome → Prop
  | evaluate (combined : Combined) (required : String) : Decided (evaluate combined required)
  | check {client : Client} {network : Network} {repository commit required : String} {o : Outcome}
    (h : (client.check network repository commit required).result = .ok o) : Decided o

/-- A call comes to no other outcomes than payloads do. -/
theorem decided_iff : Decided o ↔ ∃ combined required, evaluate combined required = o := by
  constructor
  · intro h
    cases h with
    | evaluate combined required => exact ⟨combined, required, rfl⟩
    | check h =>
      obtain ⟨combined, -, ho⟩ := Client.check_result_eq_ok_iff.1 h
      exact ⟨combined, _, ho⟩
  · rintro ⟨combined, required, rfl⟩
    exact .evaluate combined required

/-- **The states that outcomes carry** are the canonical ones but success, about any context. -/
theorem decided_notSuccessful_iff :
    Decided (.notSuccessful context t) ↔ t.IsCanonical ∧ t ≠ .success := by
  rw [decided_iff]
  simp only [evaluate_eq_notSuccessful_iff]
  constructor
  · rintro ⟨combined, required, -, hcanonical, hne, -⟩
    exact ⟨hcanonical, hne⟩
  · rintro ⟨hcanonical, hne⟩
    -- a payload with one entry, which has the text of the state
    let e : Entry := { context := some context, state := some t.toText }
    have hfirst : IsFirst [e] context e := ⟨[], [], rfl, by simp, rfl⟩
    exact ⟨{ statuses := [e] }, context, rfl, hcanonical, hne, e, hfirst, rfl⟩

end Outcomes

/-- **States are canonical where they are made.** A state that is read from a text has that text, and
a line shows it so; no other text gives the state. A state is canonical unless it is `other` of one
of the four words. The gate makes the state of an outcome from the text of the entry that decides, so
the states that outcomes carry, from a payload or from a call, are the canonical ones but success.
None of them has the text of success, and two of them are one state just if they have one text. -/
theorem states_canonical :
    (∀ s, (State.ofText s).toText = s ∧
        ∀ context, (Outcome.notSuccessful context (State.ofText s)).line =
          "Local status " ++ context ++ " is '" ++ s ++ "', expected 'success'") ∧
      (∀ s s', State.ofText s = State.ofText s' ↔ s = s') ∧
      (∀ t : State, t.IsCanonical ↔ ∀ word ∈ State.words, t ≠ .other word) ∧
      (∀ combined required context t, evaluate combined required = .notSuccessful context t ↔
        context = required ∧ t.IsCanonical ∧ t ≠ .success ∧
          ∃ e, IsFirst combined.statuses required e ∧ e.state = some t.toText) ∧
      (∀ context t, Decided (.notSuccessful context t) ↔ t.IsCanonical ∧ t ≠ .success) ∧
      (∀ context t, Decided (.notSuccessful context t) → t.toText ≠ "success") ∧
      ∀ context context' t t', Decided (.notSuccessful context t) →
        Decided (.notSuccessful context' t') → (t = t' ↔ t.toText = t'.toText) := by
  refine ⟨fun s => ⟨State.toText_ofText s, fun context => ?_⟩, fun s s' => State.ofText_inj,
    fun t => State.isCanonical_iff, fun combined required context t => ?_,
    fun context t => decided_notSuccessful_iff, fun context t h => ?_,
    fun context context' t t' h h' => ?_⟩
  · exact Outcome.line_notSuccessful_ofText context s
  · exact evaluate_eq_notSuccessful_iff
  · obtain ⟨hcanonical, hne⟩ := decided_notSuccessful_iff.1 h
    exact mt hcanonical.toText_eq_success_iff.1 hne
  · obtain ⟨hcanonical, -⟩ := decided_notSuccessful_iff.1 h
    obtain ⟨hcanonical', -⟩ := decided_notSuccessful_iff.1 h'
    exact hcanonical.eq_iff hcanonical'

/-- A call that ends with a state in capitals, beside a payload with a known one. -/
theorem states_canonical_of_capitals :
    let client : Client :=
      { base := { scheme := some .http, authority := "stub".toList, target := { path := ['/'] } }
        token := none
        timeout := none }
    let reply : Http.Reply :=
      { body := Text.toBytes
          "\x7b\"statuses\":[\x7b\"context\":\"ci/build\",\"state\":\"SUCCESS\"\x7d]\x7d".toList }
    let network : Network := { listens := fun _ => true, replies := [reply.toBytes] }
    let capitals : State := .other "SUCCESS"
    (client.check network "octo/widgets" "abc123" "ci/build").result =
        .ok (.notSuccessful "ci/build" capitals) ∧
      Decided (.notSuccessful "ci/build" capitals) ∧ Decided (.notSuccessful "ci/lint" .pending) ∧
      capitals.IsCanonical ∧ capitals ≠ .success ∧ capitals.toText ≠ "success" ∧
      (capitals = .pending ↔ capitals.toText = State.pending.toText) ∧
      ¬ Decided (.notSuccessful "ci/build" (.other "success")) := by
  intro client reply network capitals
  obtain ⟨-, -, hcanonical, -, hcarried, htext, hsame⟩ := states_canonical
  have hresult : (client.check network "octo/widgets" "abc123" "ci/build").result =
      .ok (.notSuccessful "ci/build" capitals) := by
    have h : (client.check network "octo/widgets" "abc123" "ci/build").result.toOption =
        some (.notSuccessful "ci/build" capitals) := by decide +kernel
    rcases hr : (client.check network "octo/widgets" "abc123" "ci/build").result with e | o
    · rw [hr] at h
      cases h
    · rw [hr] at h
      exact congrArg Except.ok (Option.some.inj h)
  have hcapitals : Decided (.notSuccessful "ci/build" capitals) := .check hresult
  have hpending : Decided (.notSuccessful "ci/lint" .pending) :=
    .evaluate { statuses := [{ context := some "ci/lint", state := some "pending" }] } "ci/lint"
  obtain ⟨hread, hne⟩ := (hcarried _ _).1 hcapitals
  refine ⟨hresult, hcapitals, hpending, hread, hne, htext _ _ hcapitals, ?_, fun h => ?_⟩
  · exact hsame _ _ _ _ hcapitals hpending
  · obtain ⟨hsuccess, -⟩ := (hcarried _ _).1 h
    exact (hcanonical _).1 hsuccess "success" (by decide) rfl

-- The type has a state that shows as success and is none.
example : (State.other "success").toText = "success" ∧ (State.other "success").isSuccess = false ∧
    ¬ (State.other "success").IsCanonical := by decide

end CommitGate
