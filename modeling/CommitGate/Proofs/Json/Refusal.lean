import CommitGate.Json.Decoder

/-!
# Why values are refused

A decoder that is given a value refuses it only because it does not fit: the faults of a text cannot
occur.
-/

namespace CommitGate.Json

variable {α β σ : Type} {d : Decoder α} {shape : Shape σ α}

/-- A value is refused only because it does not fit. -/
def Decoder.RefusesUnfitting (d : Decoder α) : Prop :=
  ∀ v cause, d.ofValue v = .error cause → cause.category = .unfitting

theorem refusesUnfitting_string : Decoder.string.RefusesUnfitting := by
  intro v cause h
  cases v <;> cases h <;> rfl

theorem Decoder.RefusesUnfitting.map (h : d.RefusesUnfitting) (f : α → β) :
    (d.map f).RefusesUnfitting := by
  intro v cause hv
  simp only [Decoder.map] at hv
  rcases hd : d.ofValue v with c | a
  · rw [hd] at hv
    obtain rfl : c = cause := Except.error.inj hv
    exact h _ _ hd
  · rw [hd] at hv
    cases hv

theorem Decoder.RefusesUnfitting.orNull (h : d.RefusesUnfitting) : d.orNull.RefusesUnfitting := by
  intro v cause hv
  simp only [Decoder.orNull] at hv
  split at hv
  · cases hv
  · exact h.map some _ _ hv

theorem Decoder.RefusesUnfitting.list (h : d.RefusesUnfitting) : d.list.RefusesUnfitting := by
  have hall : ∀ vs cause, d.ofValues vs = .error cause → cause.category = .unfitting := by
    intro vs
    induction vs with
    | nil => rintro cause ⟨⟩
    | cons v vs ih =>
      intro cause hvs
      rw [Decoder.ofValues] at hvs
      rcases hv : d.ofValue v with c | a
      · rw [hv] at hvs
        obtain rfl : c = cause := Except.error.inj hvs
        exact h _ _ hv
      · rw [hv] at hvs
        rcases hothers : d.ofValues vs with c | l
        · simp only [hothers, Except.map] at hvs
          obtain rfl : c = cause := Except.error.inj hvs
          exact ih c hothers
        · simp only [hothers, Except.map] at hvs
          cases hvs
  intro v cause hv
  cases v with
  | list items => exact hall items cause hv
  | null | boolean | number | string | object => cases hv; rfl

section Records

variable (hfields : ∀ field ∈ shape.fields, field.content.RefusesUnfitting)
  (hfinish : ∀ {st cause}, shape.finish st = .error cause → cause.category = .unfitting)
include hfields hfinish

theorem category_of_ofMembers {st : σ} {ms : List (String × Value)} {cause : Cause}
    (h : shape.ofMembers st ms = .error cause) : cause.category = .unfitting := by
  induction ms generalizing st with
  | nil => exact hfinish h
  | cons m ms ih =>
    rw [Shape.ofMembers] at h
    split at h
    · exact ih h
    next field hfield =>
    split at h
    · cases h
      rfl
    · split at h
      · next c hvalue =>
        cases h
        exact hfields field (List.mem_of_find?_eq_some hfield) _ _ hvalue
      · exact ih h

theorem category_of_ofPositions {i : Nat} {fields : List (Field σ)} {st : σ} {vs : List Value}
    {cause : Cause} (hsub : ∀ field ∈ fields, field ∈ shape.fields)
    (h : shape.ofPositions i fields st vs = .error cause) : cause.category = .unfitting := by
  induction vs generalizing i fields st with
  | nil =>
    cases fields with
    | nil => exact hfinish h
    | cons field fields =>
      rw [Shape.ofPositions] at h
      split at h
      · exact hfinish h
      · cases h
        rfl
  | cons v vs ih =>
    cases fields with
    | nil =>
      cases h
      rfl
    | cons field fields =>
      rw [List.forall_mem_cons] at hsub
      rw [Shape.ofPositions] at h
      split at h
      · next c hvalue =>
        cases h
        exact hfields field hsub.1 _ _ hvalue
      · exact ih hsub.2 h

end Records

/-- A record refuses only what does not fit if its fields do, and if that is why it is not
finished. -/
theorem refusesUnfitting_record
    (hfields : ∀ field ∈ shape.fields, field.content.RefusesUnfitting)
    (hfinish : ∀ {st cause}, shape.finish st = .error cause → cause.category = .unfitting) :
    (Decoder.record shape).RefusesUnfitting := by
  intro v cause h
  cases v with
  | list items => exact category_of_ofPositions hfields hfinish (fun _ => id) h
  | object ms => exact category_of_ofMembers hfields hfinish h
  | null | boolean | number | string => cases h; rfl

end CommitGate.Json
