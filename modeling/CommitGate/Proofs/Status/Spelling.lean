import CommitGate.Proofs.Status.Payload

/-!
# Texts that spell a list of entries

A list of entries is spelled by an object with a list of objects, in any order of their members, with
any blanks, with escapes or without, and with whatever other members there are (`Spells`). Each list
can be spelled (`exists_spells`), and decoding gives back the list that is spelled.
-/

namespace CommitGate.Status

open Json
open Text (toBytes)

/-! ### Spellings -/

/-- The values of the members with one key that spell a context or a state: none is spelled by
`null`, or by leaving the member out. -/
inductive FieldSpelled : List Node → Option String → Prop
  | absent : FieldSpelled [] none
  | null : FieldSpelled [.null] none
  | string {s : String} {t : List Char} (h : TextWritten s.toList t) :
    FieldSpelled [.string t] (some s)

/-- An object that spells an entry, whatever else is in it. -/
inductive EntrySpelled : Node → Entry → Prop
  | object {members : List (List Char × Node)} {named : List (String × Node)}
    {context state : Option String} (hnamed : Named members named)
    (hcontext : FieldSpelled (valuesAt "context" named) context)
    (hstate : FieldSpelled (valuesAt "state" named) state) :
    EntrySpelled (.object members) { context, state }

/-- An object that spells a list of entries, whatever else is in it. -/
inductive ListSpelled : Node → List Entry → Prop
  | object {members : List (List Char × Node)} {named : List (String × Node)} {items : List Node}
    {entries : List Entry} (hnamed : Named members named)
    (hstatuses : valuesAt "statuses" named = [.list items])
    (hentries : List.Forall₂ EntrySpelled items entries) : ListSpelled (.object members) entries

/-- **The text spells the entries.** -/
def Spells (text : List Char) (entries : List Entry) : Prop :=
  ∃ n, Document n text ∧ ListSpelled n entries

/-! ### Every list is spelled -/

theorem exists_fieldSpelled (o : Option String) : ∃ n t, n.Written t ∧ FieldSpelled [n] o := by
  cases o with
  | none => exact ⟨.null, _, .null, .null⟩
  | some s =>
    obtain ⟨t, ht⟩ := exists_textWritten s.toList
    exact ⟨.string t, _, .string (stringBody_of_textWritten ht), .string ht⟩

theorem exists_entrySpelled (e : Entry) : ∃ n, (∃ t, n.Written t) ∧ EntrySpelled n e := by
  obtain ⟨context, t, ht, hcontext⟩ := exists_fieldSpelled e.context
  obtain ⟨state, u, hu, hstate⟩ := exists_fieldSpelled e.state
  have hkeys : PlainText "context".toList ∧ PlainText "state".toList := by decide
  have hnamed := @named_of_plain [("context", context), ("state", state)]
    (List.forall_mem_cons.2 ⟨hkeys.1, List.forall_mem_singleton.2 hkeys.2⟩)
  refine ⟨_, ⟨_, .object (.more blanks_nil (memberWritten_of_plain hkeys.1 ht) blanks_nil
    (.one blanks_nil (memberWritten_of_plain hkeys.2 hu) blanks_nil))⟩, .object hnamed ?_ ?_⟩
  · rwa [valuesAt_cons_self, valuesAt_cons_of_ne (by decide), valuesAt_nil]
  · rwa [valuesAt_cons_of_ne (by decide), valuesAt_cons_self, valuesAt_nil]

/-- Every list of entries is spelled by some text. -/
theorem exists_spells (entries : List Entry) : ∃ text, Spells text entries := by
  have hall : ∃ ns, (∀ n ∈ ns, ∃ t, n.Written t) ∧ List.Forall₂ EntrySpelled ns entries := by
    induction entries with
    | nil => exact ⟨[], List.forall_mem_nil _, .nil⟩
    | cons e entries ih =>
      obtain ⟨n, hn, he⟩ := exists_entrySpelled e
      obtain ⟨ns, hns, hentries⟩ := ih
      exact ⟨n :: ns, List.forall_mem_cons.2 ⟨hn, hns⟩, .cons he hentries⟩
  obtain ⟨ns, hns, hentries⟩ := hall
  obtain ⟨row, hrow⟩ := exists_row hns
  have hkey : PlainText "statuses".toList := by decide
  have hnamed := @named_of_plain [("statuses", .list ns)] (List.forall_mem_singleton.2 hkey)
  have hwritten := Node.Written.object
    (.one blanks_nil (memberWritten_of_plain hkey (.list hrow)) blanks_nil)
  exact ⟨_, _, ⟨[], _, [], rfl, blanks_nil, hwritten, blanks_nil⟩,
    .object hnamed (valuesAt_cons_self _ _ _) hentries⟩

/-! ### What is spelled is decoded -/

theorem orDefault_of_fieldSpelled {ns : List Node} {o : Option String} (h : FieldSpelled ns o) :
    OrDefault (IsMaybeText Node.view) none ns o := by
  cases h with
  | absent => exact .inl ⟨rfl, rfl⟩
  | null => exact .inr ⟨_, rfl, .inl ⟨rfl, rfl⟩⟩
  | string h => exact .inr ⟨_, rfl, .inr ⟨_, ⟨_, rfl, h⟩, rfl⟩⟩

theorem isEntry_of_entrySpelled {n : Node} {e : Entry} (h : EntrySpelled n e) :
    IsEntry Node.view n e := by
  cases h with
  | object hnamed hcontext hstate =>
    exact .object ⟨_, rfl, hnamed⟩ (orDefault_of_fieldSpelled hcontext)
      (orDefault_of_fieldSpelled hstate)

theorem isCombined_of_listSpelled {n : Node} {entries : List Entry} (h : ListSpelled n entries) :
    IsCombined Node.view n { statuses := entries } := by
  cases h with
  | object hnamed hstatuses hentries =>
    refine .object ⟨_, rfl, hnamed⟩ (.inr ⟨_, hstatuses, _, rfl, ?_⟩)
    exact hentries.imp fun _ _ => isEntry_of_entrySpelled

/-- **Decoding gives back the entries that a text spells.** -/
theorem decode_of_spells {text : List Char} {entries : List Entry} (h : Spells text entries) :
    Combined.decoder.decode (toBytes text) = .ok { statuses := entries } := by
  obtain ⟨n, hdoc, hspelled⟩ := h
  exact (means_combined.decode_eq_ok_iff hdoc).2 (isCombined_of_listSpelled hspelled)

/-- With escapes, a `null`, blanks and members of other names. -/
theorem decode_of_spells_escaped :
    Combined.decoder.decode (toBytes ("\x7b\"sha\":[1], \"statuses\":" ++
      "[\x7b\"context\":\"c\\u0069\\/\\ud83d\\ude80\",\"state\":null\x7d]\x7d").toList) =
      .ok { statuses := [{ context := some "ci/🚀" }] } := by
  have hletter : CharWritten 'i' ['\\', 'u', '0', '0', '6', '9'] :=
    .code ⟨_, _, _, _, 0, 0, 6, 9, rfl, .inl rfl, .inl rfl, .inl rfl, .inl rfl, rfl⟩
  have hrocket : CharWritten '🚀' ['\\', 'u', 'd', '8', '3', 'd', '\\', 'u', 'd', 'e', '8', '0'] :=
    @CharWritten.pair _ ['d', '8', '3', 'd'] ['d', 'e', '8', '0'] (by decide)
      ⟨_, _, _, _, 13, 8, 3, 13, rfl, .inl rfl, .inl rfl, .inl rfl, .inl rfl, rfl⟩
      ⟨_, _, _, _, 13, 14, 8, 0, rfl, .inl rfl, .inl rfl, .inl rfl, .inl rfl, rfl⟩
  have hname : TextWritten "ci/🚀".toList _ := .cons (.plain (by decide : IsPlain 'c'))
    (.cons hletter (.cons (.short .slash) (.cons hrocket .nil)))
  have hkeys : ∀ key ∈ ["sha", "statuses", "context", "state"], PlainText key.toList := by
    decide
  simp only [List.forall_mem_cons] at hkeys
  obtain ⟨hsha, hstatuses, hcontext, hstate, -⟩ := hkeys
  have hone : NumberWritten ['1'] := ⟨[], ['1'], [], [], rfl, .head _, ⟨by decide, List.forall_mem_singleton.2 rfl⟩,
    by decide, .inl rfl, .inl rfl⟩
  have hentry := Node.Written.object (.more blanks_nil
    (memberWritten_of_plain hcontext (.string (stringBody_of_textWritten hname))) blanks_nil
    (.one blanks_nil (memberWritten_of_plain hstate .null) blanks_nil))
  have htext := Node.Written.object (.more blanks_nil
    (memberWritten_of_plain hsha (.list (.one blanks_nil (.number hone) blanks_nil))) blanks_nil
    (.one (by decide : Blanks [' '])
      (memberWritten_of_plain hstatuses (.list (.one blanks_nil hentry blanks_nil))) blanks_nil))
  refine decode_of_spells ⟨_, ⟨[], _, [], ?_, blanks_nil, htext, blanks_nil⟩, ?_⟩
  · decide
  · have hspelled := EntrySpelled.object (@named_of_plain [("context", _), ("state", .null)]
      (List.forall_mem_cons.2 ⟨hcontext, List.forall_mem_singleton.2 hstate⟩)) (.string hname) .null
    exact .object (@named_of_plain [("sha", _), ("statuses", _)]
      (List.forall_mem_cons.2 ⟨hsha, List.forall_mem_singleton.2 hstatuses⟩)) rfl
      (.cons hspelled .nil)

end CommitGate.Status
