import CommitGate.Proofs.Json.Meaning
import CommitGate.Proofs.Json.Refusal
import CommitGate.Status.Combined

/-!
# What is taken as a payload

The payload of a response is a combined status: an object with a list of entries, each an object with
a context and a state. Both may also stand as lists of their fields. `IsCombined` says what is taken
as a payload, and as which, of anything that can be looked at as JSON; the decoder takes just that
(`means_combined`).
-/

namespace CommitGate.Status

open Json

/-! ### Payloads -/

section Payloads

variable {τ : Type} (V : View τ)

/-- A context or a state: a string, or `null` for none. -/
def IsMaybeText (x : τ) (o : Option String) : Prop :=
  (V.isNull x ∧ o = none) ∨ ∃ s, V.text x s ∧ o = some s

/-- **An entry**: an object with a context and a state, each of them absent, `null` or a string; or
a list of a context and a state, where those at the end may be left out. -/
inductive IsEntry : τ → Entry → Prop
  | object {x : τ} {ms : List (String × τ)} {context state : Option String}
    (members : V.members x ms)
    (hcontext : OrDefault (IsMaybeText V) none (valuesAt "context" ms) context)
    (hstate : OrDefault (IsMaybeText V) none (valuesAt "state" ms) state) :
    IsEntry x { context, state }
  | list {x : τ} {xs : List τ} {context state : Option String} (items : V.items x xs)
    (short : xs.length ≤ 2) (hcontext : OrDefault (IsMaybeText V) none xs[0]?.toList context)
    (hstate : OrDefault (IsMaybeText V) none xs[1]?.toList state) : IsEntry x { context, state }

/-- A list of entries. -/
def AreEntries (x : τ) (entries : List Entry) : Prop :=
  ∃ xs, V.items x xs ∧ List.Forall₂ (IsEntry V) xs entries

/-- **A payload**: an object with a list of entries, which may be absent; or a list of that list,
which may be left out. -/
inductive IsCombined : τ → Combined → Prop
  | object {x : τ} {ms : List (String × τ)} {statuses : List Entry} (members : V.members x ms)
    (hstatuses : OrDefault (AreEntries V) [] (valuesAt "statuses" ms) statuses) :
    IsCombined x { statuses }
  | list {x : τ} {xs : List τ} {statuses : List Entry} (items : V.items x xs)
    (hstatuses : OrDefault (AreEntries V) [] xs statuses) : IsCombined x { statuses }

end Payloads

/-! ### Entries -/

/-- What a field of an entry is taken for. -/
def entryContent (field : Json.Field EntryDraft) : Meaning (EntryDraft → EntryDraft) := fun _ V x set =>
  ∃ o, (fun d : EntryDraft =>
      if field.name = "context" then { d with context := some o } else { d with state := some o }) =
    set ∧ IsMaybeText V x o

theorem means_maybeText : Decoder.string.orNull.Means fun _ V x o => IsMaybeText V x o :=
  means_string.orNull.congr fun V x o => by
    unfold IsMaybeText
    refine or_congr_right ⟨?_, ?_⟩
    · rintro ⟨-, s, ho, hs⟩
      exact ⟨s, hs, ho⟩
    · rintro ⟨s, hs, ho⟩
      exact ⟨V.not_isNull_of_text hs, s, ho, hs⟩

section Entries

variable {τ : Type} {V : View τ} {d d' : EntryDraft} {e : Entry} {x : τ}

/-- How an entry takes a member, or an element, for one of its fields. -/
abbrev takesEntry (V : View τ) : String × τ → EntryDraft → EntryDraft → Prop :=
  Entry.shape.Takes fun field => entryContent field τ V

theorem takes_context_iff :
    takesEntry V ("context", x) d d' ↔
      d.context = none ∧ ∃ o, { d with context := some o } = d' ∧ IsMaybeText V x o := by
  simp [takesEntry, Shape.Takes, Shape.field?, Entry.shape, entryContent]

theorem takes_state_iff :
    takesEntry V ("state", x) d d' ↔
      d.state = none ∧ ∃ o, { d with state := some o } = d' ∧ IsMaybeText V x o := by
  simp [takesEntry, Shape.Takes, Shape.field?, Entry.shape, entryContent]

theorem takes_other_iff {key : String} (hcontext : key ≠ "context") (hstate : key ≠ "state") :
    takesEntry V (key, x) d d' ↔ d' = d := by
  simp [takesEntry, Shape.Takes, Shape.field?, Entry.shape, hcontext.symm, hstate.symm]

theorem finish_entry_iff : Entry.shape.finish d = .ok e ↔
    { context := d.context.getD none, state := d.state.getD none } = e := by
  cases d with
  | mk context state => cases context <;> cases state <;> simp [Entry.shape]

theorem mayStopEarly_entry : Entry.shape.mayStopEarly = true := rfl

theorem gathers_entry_iff {ms : List (String × τ)} :
    Entry.shape.Gathers (fun field => entryContent field τ V) d ms e ↔
      ∃ context state, Fills (IsMaybeText V) (valuesAt "context" ms) d.context context ∧
        Fills (IsMaybeText V) (valuesAt "state" ms) d.state state ∧
        { context := context.getD none, state := state.getD none } = e := by
  induction ms generalizing d with
  | nil => simp [gathers_nil_iff, finish_entry_iff, Fills]
  | cons m ms ih =>
    obtain ⟨key, x⟩ := m
    rw [gathers_cons_iff]
    simp only [ih]
    by_cases hcontext : key = "context"
    · subst hcontext
      rw [valuesAt_cons_self, valuesAt_cons_of_ne (by decide)]
      simp only [takes_context_iff, Fills]
      constructor
      · rintro ⟨_, ⟨hnone, o, rfl, ho⟩, context, state, hfill, hstate, rfl⟩
        exact ⟨context, state, ⟨hnone, o, ho, hfill⟩, hstate, rfl⟩
      · rintro ⟨context, state, ⟨hnone, o, ho, hfill⟩, hstate, rfl⟩
        exact ⟨_, ⟨hnone, o, rfl, ho⟩, context, state, hfill, hstate, rfl⟩
    by_cases hstate : key = "state"
    · subst hstate
      rw [valuesAt_cons_self, valuesAt_cons_of_ne (by decide)]
      simp only [takes_state_iff, Fills]
      constructor
      · rintro ⟨_, ⟨hnone, o, rfl, ho⟩, context, state, hcontext, hfill, rfl⟩
        exact ⟨context, state, hcontext, ⟨hnone, o, ho, hfill⟩, rfl⟩
      · rintro ⟨context, state, hcontext, ⟨hnone, o, ho, hfill⟩, rfl⟩
        exact ⟨_, ⟨hnone, o, rfl, ho⟩, context, state, hcontext, hfill, rfl⟩
    · rw [valuesAt_cons_of_ne hcontext, valuesAt_cons_of_ne hstate]
      simp only [takes_other_iff hcontext hstate, exists_eq_left]

theorem exists_fields_entry : ∃ f g, Entry.shape.fields = [f, g] ∧
    f ∈ Entry.shape.fields ∧ g ∈ Entry.shape.fields ∧ f.name = "context" ∧ g.name = "state" :=
  ⟨_, _, rfl, .head _, .tail _ (.head _), rfl, rfl⟩

theorem gathersNext_entry_iff {xs : List τ} :
    Entry.shape.GathersNext (fun field => entryContent field τ V) Entry.shape.fields {} xs e ↔
      ∃ context state, xs.length ≤ 2 ∧ OrDefault (IsMaybeText V) none xs[0]?.toList context ∧
        OrDefault (IsMaybeText V) none xs[1]?.toList state ∧ { context, state } = e := by
  obtain ⟨f, g, hfields, hmemf, hmemg, hf, hg⟩ := exists_fields_entry
  rw [hfields]
  rcases xs with _ | ⟨x, _ | ⟨y, _ | ⟨z, zs⟩⟩⟩
  · rw [gathersNext_nil_iff]
    simp [finish_entry_iff, mayStopEarly_entry]
  · rw [gathersNext_cons_iff hmemf]
    simp [gathersNext_nil_iff, entryContent, hf, finish_entry_iff, mayStopEarly_entry]
  · rw [gathersNext_cons_iff hmemf]
    simp [gathersNext_cons_iff hmemg, gathersNext_nil_iff, entryContent, hf, hg,
      finish_entry_iff]
  · rw [gathersNext_cons_iff hmemf]
    simp [gathersNext_cons_iff hmemg, not_gathersNext_cons]

end Entries

/-- **The decoder of entries takes just what is an entry.** -/
theorem means_entry : Entry.decoder.Means fun _ V x e => IsEntry V x e := by
  have hfields : ∀ field ∈ Entry.shape.fields, field.content.Means (entryContent field) := by
    simp only [Entry.shape, List.forall_mem_cons, List.not_mem_nil, false_implies, implies_true,
      and_true]
    exact ⟨means_maybeText.map _, means_maybeText.map _⟩
  refine (means_record hfields).congr fun {τ} V x e => ?_
  constructor
  · rintro (⟨xs, hxs, hgathers⟩ | ⟨ms, hms, hgathers⟩)
    · obtain ⟨context, state, hlength, hcontext, hstate, rfl⟩ := gathersNext_entry_iff.1 hgathers
      exact .list hxs hlength hcontext hstate
    · obtain ⟨context, state, hcontext, hstate, rfl⟩ := gathers_entry_iff.1 hgathers
      exact .object hms (fills_getD_iff.1 ⟨context, hcontext, rfl⟩)
        (fills_getD_iff.1 ⟨state, hstate, rfl⟩)
  · rintro (⟨hms, hcontext, hstate⟩ | ⟨hxs, hlength, hcontext, hstate⟩)
    · obtain ⟨context, hcontext', rfl⟩ := fills_getD_iff.2 hcontext
      obtain ⟨state, hstate', rfl⟩ := fills_getD_iff.2 hstate
      exact .inr ⟨_, hms, gathers_entry_iff.2 ⟨context, state, hcontext', hstate', rfl⟩⟩
    · exact .inl ⟨_, hxs, gathersNext_entry_iff.2 ⟨_, _, hlength, hcontext, hstate, rfl⟩⟩

/-! ### Combined statuses -/

section Combineds

variable {τ : Type} {V : View τ} {c : Combined}

/-- What the field of a combined status is taken for. -/
def combinedContent (_ : Json.Field (Option (List Entry))) :
    Meaning (Option (List Entry) → Option (List Entry)) := fun _ V x set =>
  ∃ l, (fun _ => some l) = set ∧ AreEntries V x l

theorem takes_statuses_iff {x : τ} {st st' : Option (List Entry)} :
    Combined.shape.Takes (fun field => combinedContent field τ V) ("statuses", x) st st' ↔
      st = none ∧ ∃ l, some l = st' ∧ AreEntries V x l := by
  simp [Shape.Takes, Shape.field?, Combined.shape, combinedContent]

theorem takes_unknown_iff {key : String} (hkey : key ≠ "statuses") {x : τ}
    {st st' : Option (List Entry)} :
    Combined.shape.Takes (fun field => combinedContent field τ V) (key, x) st st' ↔ st' = st := by
  simp [Shape.Takes, Shape.field?, Combined.shape, hkey.symm]

theorem finish_combined_iff {st : Option (List Entry)} :
    Combined.shape.finish st = .ok c ↔ { statuses := st.getD [] } = c := by
  simp [Combined.shape]

theorem gathers_combined_iff {ms : List (String × τ)} {st : Option (List Entry)} :
    Combined.shape.Gathers (fun field => combinedContent field τ V) st ms c ↔
      ∃ new, Fills (AreEntries V) (valuesAt "statuses" ms) st new ∧
        { statuses := new.getD [] } = c := by
  induction ms generalizing st with
  | nil => simp [gathers_nil_iff, Fills, finish_combined_iff]
  | cons m ms ih =>
    obtain ⟨key, x⟩ := m
    rw [gathers_cons_iff]
    simp only [ih]
    by_cases hkey : key = "statuses"
    · subst hkey
      rw [valuesAt_cons_self]
      simp only [takes_statuses_iff, Fills]
      constructor
      · rintro ⟨_, ⟨hnone, l, rfl, hl⟩, new, hfill, rfl⟩
        exact ⟨new, ⟨hnone, l, hl, hfill⟩, rfl⟩
      · rintro ⟨new, ⟨hnone, l, hl, hfill⟩, rfl⟩
        exact ⟨_, ⟨hnone, l, rfl, hl⟩, new, hfill, rfl⟩
    · rw [valuesAt_cons_of_ne hkey]
      simp only [takes_unknown_iff hkey, exists_eq_left]

theorem exists_field_combined :
    ∃ f, Combined.shape.fields = [f] ∧ f ∈ Combined.shape.fields :=
  ⟨_, rfl, .head _⟩

theorem gathersNext_combined_iff {xs : List τ} :
    Combined.shape.GathersNext (fun field => combinedContent field τ V) Combined.shape.fields none
        xs c ↔
      ∃ l, OrDefault (AreEntries V) [] xs l ∧ { statuses := l } = c := by
  obtain ⟨f, hfields, hmem⟩ := exists_field_combined
  rw [hfields]
  rcases xs with _ | ⟨x, _ | ⟨y, ys⟩⟩
  · rw [gathersNext_nil_iff]
    simp [Combined.shape]
  · rw [gathersNext_cons_iff hmem]
    simp [gathersNext_nil_iff, combinedContent, finish_combined_iff]
  · rw [gathersNext_cons_iff hmem]
    simp [not_gathersNext_cons, not_orDefault_cons_cons]

end Combineds

/-- **The decoder of combined statuses takes just what is a payload.** -/
theorem means_combined : Combined.decoder.Means fun _ V x c => IsCombined V x c := by
  have hfields : ∀ field ∈ Combined.shape.fields, field.content.Means (combinedContent field) := by
    simp only [Combined.shape, List.forall_mem_singleton]
    exact means_entry.list.map _
  refine (means_record hfields).congr fun {τ} V x c => ?_
  constructor
  · rintro (⟨xs, hxs, hgathers⟩ | ⟨ms, hms, hgathers⟩)
    · obtain ⟨l, hl, rfl⟩ := gathersNext_combined_iff.1 hgathers
      exact .list hxs hl
    · obtain ⟨new, hfill, rfl⟩ := gathers_combined_iff.1 hgathers
      exact .object hms (fills_getD_iff.1 ⟨new, hfill, rfl⟩)
  · rintro (⟨hms, hstatuses⟩ | ⟨hxs, hstatuses⟩)
    · obtain ⟨new, hfill, rfl⟩ := fills_getD_iff.2 hstatuses
      exact .inr ⟨_, hms, gathers_combined_iff.2 ⟨new, hfill, rfl⟩⟩
    · exact .inl ⟨_, hxs, gathersNext_combined_iff.2 ⟨_, hstatuses, rfl⟩⟩

theorem refusesUnfitting_entry : Entry.decoder.RefusesUnfitting := by
  refine refusesUnfitting_record ?_ ?_
  · simp only [Entry.shape, List.forall_mem_cons, List.not_mem_nil, false_implies, implies_true,
      and_true]
    exact ⟨refusesUnfitting_string.orNull.map _, refusesUnfitting_string.orNull.map _⟩
  · rintro st cause ⟨⟩

theorem refusesUnfitting_combined : Combined.decoder.RefusesUnfitting := by
  refine refusesUnfitting_record ?_ ?_
  · simp only [Combined.shape, List.forall_mem_singleton]
    exact refusesUnfitting_entry.list.map _
  · rintro st cause ⟨⟩

/-- **A value decodes as the combined status that it is**, and every value that is none is refused
because it does not fit. -/
theorem ofValue_combined_eq_ok_iff (v : Value) :
    (∀ c, Combined.decoder.ofValue v = .ok c ↔ IsCombined Value.view v c) ∧
      ((∃ cause, Combined.decoder.ofValue v = .error cause ∧ cause.category = .unfitting) ↔
        ∀ c, ¬ IsCombined Value.view v c) := by
  refine ⟨fun c => means_combined.ofValue_iff, ?_⟩
  simp only [← means_combined.ofValue_iff]
  constructor
  · rintro ⟨cause, hcause, -⟩ c hc
    cases hcause.symm.trans hc
  · intro hno
    rcases hv : Combined.decoder.ofValue v with cause | c
    · exact ⟨cause, rfl, refusesUnfitting_combined _ _ hv⟩
    · exact absurd hv (hno c)

end CommitGate.Status
