import CommitGate.Gate
import CommitGate.Proofs.Json.Agreement
import CommitGate.Proofs.Status.Payload

/-!
# Payloads as texts and as values

A payload can be decoded from its text, or from the value that the text is read as. Both give the
same, unless an object of the text repeats a key: a value keeps one of the members, the decoder of
texts may see a second.
-/

namespace CommitGate.Status

open Json
open Text (toBytes)

/-! ### What looks the same is the same payload -/

section Simulation

variable {τ υ : Type} {V : View τ} {W : View υ} {rel : τ → υ → Prop} {x : τ} {y : υ}
  {o : Option String} {e : Entry} {entries : List Entry} {c : Combined} (hsim : V.Simulates W rel)
include hsim

theorem isMaybeText_of_simulates (hrel : rel x y) (h : IsMaybeText V x o) : IsMaybeText W y o := by
  obtain ⟨hnull, rfl⟩ | ⟨s, hs, rfl⟩ := h
  · exact .inl ⟨hsim.isNull hrel hnull, rfl⟩
  · exact .inr ⟨s, hsim.text hrel hs, rfl⟩

theorem isEntry_of_simulates (hrel : rel x y) (h : IsEntry V x e) : IsEntry W y e := by
  have htext : ∀ x y o, rel x y → IsMaybeText V x o → IsMaybeText W y o :=
    fun _ _ _ => isMaybeText_of_simulates hsim
  obtain ⟨hms, hcontext, hstate⟩ | ⟨hxs, hshort, hcontext, hstate⟩ := h
  · obtain ⟨ms', hms', hvalues⟩ := hsim.members hrel hms
    exact .object hms' (orDefault_of_forall₂ htext (hvalues _) hcontext)
      (orDefault_of_forall₂ htext (hvalues _) hstate)
  · obtain ⟨ys, hys, hall⟩ := hsim.items hrel hxs
    exact .list hys (hall.length_eq ▸ hshort)
      (orDefault_of_forall₂ htext (forall₂_getElem? hall 0) hcontext)
      (orDefault_of_forall₂ htext (forall₂_getElem? hall 1) hstate)

theorem areEntries_of_simulates (hrel : rel x y) (h : AreEntries V x entries) :
    AreEntries W y entries := by
  have hentry : ∀ x y e, rel x y → IsEntry V x e → IsEntry W y e :=
    fun _ _ _ => isEntry_of_simulates hsim
  obtain ⟨xs, hxs, hentries⟩ := h
  obtain ⟨ys, hys, hall⟩ := hsim.items hrel hxs
  exact ⟨ys, hys, forall₂_of_forall₂ hentry hall hentries⟩

theorem isCombined_of_simulates (hrel : rel x y) (h : IsCombined V x c) : IsCombined W y c := by
  have hentries : ∀ x y l, rel x y → AreEntries V x l → AreEntries W y l :=
    fun _ _ _ => areEntries_of_simulates hsim
  obtain ⟨hms, hstatuses⟩ | ⟨hxs, hstatuses⟩ := h
  · obtain ⟨ms', hms', hvalues⟩ := hsim.members hrel hms
    exact .object hms' (orDefault_of_forall₂ hentries (hvalues _) hstatuses)
  · obtain ⟨ys, hys, hall⟩ := hsim.items hrel hxs
    exact .list hys (orDefault_of_forall₂ hentries hall hstatuses)

end Simulation

/-! ### Both decoders -/

section Decoders

variable {n : Node} {text : List Char} {v : Value}

theorem gives_of_ofText (hdoc : Document n text) (hkeys : n.KeysDistinct)
    (hv : Value.ofText (toBytes text) = .ok v) : n.Gives v :=
  ⟨hkeys, maxDepth, (ofText_eq_ok_iff_denotes hdoc).1 hv⟩

theorem decode_entry_iff_ofValue (hdoc : Document n text) (hgives : n.Gives v) (e : Entry) :
    Entry.decoder.decode (toBytes text) = .ok e ↔ Entry.decoder.ofValue v = .ok e := by
  rw [means_entry.decode_eq_ok_iff hdoc, means_entry.ofValue_iff]
  exact ⟨isEntry_of_simulates simulates_gives hgives,
    isEntry_of_simulates simulates_flip_gives hgives⟩

theorem decode_combined_iff_ofValue (hdoc : Document n text) (hgives : n.Gives v) (c : Combined) :
    Combined.decoder.decode (toBytes text) = .ok c ↔ Combined.decoder.ofValue v = .ok c := by
  rw [means_combined.decode_eq_ok_iff hdoc, means_combined.ofValue_iff]
  exact ⟨isCombined_of_simulates simulates_gives hgives,
    isCombined_of_simulates simulates_flip_gives hgives⟩

end Decoders

theorem toOption_eq_of_ok_iff {ε ε' α : Type} {x : Except ε α} {y : Except ε' α}
    (h : ∀ a, x = .ok a ↔ y = .ok a) : x.toOption = y.toOption := by
  rcases x with cause | a
  · rcases y with cause' | a
    · rfl
    · cases (h a).2 rfl
  · rw [(h a).1 rfl]
    rfl

/-- **Bytes that are read as a value are a text of some tree; and if no object of the tree repeats a
key, both decoders fail, or both succeed with the same payload** and thus the same outcome for every
required context. So it is for entries. -/
theorem decode_agrees_ofValue {s : Bytes} {v : Value} (hv : Value.ofText s = .ok v) :
    (∃ n text, s = toBytes text ∧ Document n text) ∧
      ∀ n text, s = toBytes text → Document n text → n.KeysDistinct →
        (Combined.decoder.decode s).toOption = (Combined.decoder.ofValue v).toOption ∧
        (∀ required, (Combined.decoder.decode s).toOption.map (evaluate · required) =
          (Combined.decoder.ofValue v).toOption.map (evaluate · required)) ∧
        (Entry.decoder.decode s).toOption = (Entry.decoder.ofValue v).toOption := by
  constructor
  · obtain ⟨n, text, hs, hdoc, -⟩ := ofText_eq_ok_iff.1 hv
    exact ⟨n, text, hs, hdoc⟩
  · rintro n text rfl hdoc hkeys
    have hgives := gives_of_ofText hdoc hkeys hv
    have hcombined := toOption_eq_of_ok_iff (decode_combined_iff_ofValue hdoc hgives)
    refine ⟨hcombined, fun required => ?_,
      toOption_eq_of_ok_iff (decode_entry_iff_ofValue hdoc hgives)⟩
    rw [hcombined]

/-- An entry as a list, behind a member of another name. -/
theorem decode_agrees_ofValue_list :
    (Combined.decoder.decode
        (toBytes "\x7b\"sha\":null,\"statuses\":[[\"ci\",\"success\"]]\x7d".toList)).toOption =
      (Combined.decoder.ofValue (.object [("sha", .null),
        ("statuses", .list [.list [.string "ci", .string "success"]])])).toOption ∧
    (Combined.decoder.ofValue (.object [("sha", .null),
        ("statuses", .list [.list [.string "ci", .string "success"]])])).toOption =
      some { statuses := [{ context := some "ci", state := some "success" }] } := by
  have hplain : ∀ s ∈ ["sha", "statuses", "ci", "success"], PlainText s.toList := by decide
  simp only [List.forall_mem_cons] at hplain
  obtain ⟨hsha, hstatuses, hci, hsuccess, -⟩ := hplain
  have hstring {s : String} (hs : PlainText s.toList) :
      Node.Written (.string s.toList) ('\x22' :: s.toList ++ ['\x22']) ∧
        ∀ depth, Node.Denotes depth (.string s.toList) (.string s) :=
    ⟨.string (stringBody_of_textWritten (textWritten_of_plain hs)),
      fun _ => denotes_string_iff.2 ⟨s, rfl, textWritten_of_plain hs⟩⟩
  have hentry := Node.Written.list (.more blanks_nil (hstring hci).1 blanks_nil
    (.one blanks_nil (hstring hsuccess).1 blanks_nil))
  have hwritten := Node.Written.object (.more blanks_nil (memberWritten_of_plain hsha .null)
    blanks_nil (.one blanks_nil
      (memberWritten_of_plain hstatuses (.list (.one blanks_nil hentry blanks_nil))) blanks_nil))
  have hdoc : Document _ "\x7b\"sha\":null,\"statuses\":[[\"ci\",\"success\"]]\x7d".toList :=
    ⟨[], _, [], by decide, blanks_nil, hwritten, blanks_nil⟩
  have hnamed := @named_of_plain [("sha", .null),
      ("statuses", .list [.list [.string "ci".toList, .string "success".toList]])]
    (List.forall_mem_cons.2 ⟨hsha, List.forall_mem_singleton.2 hstatuses⟩)
  have hdenotes : (Node.list [.list [.string "ci".toList, .string "success".toList]]).Denotes 126
      (.list [.list [.string "ci", .string "success"]]) :=
    ⟨_, rfl, .cons ⟨_, rfl, .cons ((hstring hci).2 _) (.cons ((hstring hsuccess).2 _) .nil)⟩ .nil⟩
  have hv : Value.ofText _ = .ok (.object [("sha", .null),
      ("statuses", .list [.list [.string "ci", .string "success"]])]) :=
    (ofText_eq_ok_iff_denotes hdoc).2 (denotes_object_iff.2 ⟨126, rfl, _, _, rfl, hnamed,
      .cons ⟨.null, rfl, rfl⟩ (.cons ⟨_, rfl, hdenotes⟩ (.nil _))⟩)
  have hkeys := Node.KeysDistinct.object ((pairwise_named_iff hnamed).2 (by decide))
    (by simp [Node.KeysDistinct.null, Node.KeysDistinct.list, Node.KeysDistinct.string])
  exact ⟨((decode_agrees_ofValue hv).2 _ _ rfl hdoc hkeys).1, rfl⟩

end CommitGate.Status
