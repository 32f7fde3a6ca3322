import CommitGate.Proofs.Json.Meaning

/-!
# How far a value goes

Whatever a decoder reads ends where the same value ends if it is skipped (`Decoder.Skips`). The reader
that skips keeps the brackets that are open, and a decoder does not: a value that is skipped alone is
skipped inside any brackets as well (`skipped_append`), and a list or an object is skipped because
each of its parts is (`settlesAfter_run`).
-/

namespace CommitGate.Json

open Relation (Comp)

/-! ### Blanks in front of a value -/

section Blanks

variable {p : UInt8 → Prop} {frame : Frame} {stack : List Frame} {s u v rest : Bytes}

theorem skipsTo_of_mark {b : UInt8} (h : Mark b s u) (hb : p b) : SkipsTo p s (b :: u) :=
  ⟨b, u, h, hb, rfl⟩

theorem SkipsTo.skipBlanks_eq (h : SkipsTo p s u) : skipBlanks s = skipBlanks u := by
  obtain ⟨b, t, hs, -, rfl⟩ := h
  obtain ⟨-, -, -, hb⟩ := skipBlanks_eq_cons_iff.1 hs
  rw [hs, skipBlanks_cons hb]

/-- A token may have blanks in front of it. -/
theorem token_of_skipsTo {opened : Option Frame} (h : SkipsTo p s u) (token : Token opened u v) :
    Token opened s v := by
  obtain ⟨b, t, hs, -, -⟩ := id h
  have hu : skipBlanks u = b :: t := h.skipBlanks_eq ▸ hs
  exact (token_iff_of_cons hs).2 ((token_iff_of_cons hu).1 token)

/-- So may a value that is skipped. -/
theorem skipped_of_skipsTo (h : SkipsTo p s u) (skipped : Skipped stack u rest) :
    Skipped stack s rest := by
  cases skipped with
  | done token settled => exact .done (token_of_skipsTo h token) settled
  | more token settled some_left others =>
    exact .more (token_of_skipsTo h token) settled some_left others

/-- So may a part of a bracket. -/
theorem enters_of_skipsTo (h : SkipsTo p s u) (enters : Comp (Enters frame) (Skipped stack) u rest) :
    Comp (Enters frame) (Skipped stack) s rest := by
  obtain ⟨v, enters, skipped⟩ := enters
  cases frame with
  | list =>
    obtain rfl : u = v := enters
    exact ⟨s, rfl, skipped_of_skipsTo h skipped⟩
  | object =>
    obtain ⟨w, quote, key⟩ := enters
    exact ⟨v, ⟨w, h.skipBlanks_eq.trans quote, key⟩, skipped⟩

end Blanks

/-! ### Values inside brackets -/

section Brackets

variable {frame : Frame} {opened left stack : List Frame} {complete : Bool} {s u rest : Bytes}

/-- What leaves brackets open leaves those around it open as well. -/
theorem settles_append (h : Settles opened complete left s u) (hleft : left ≠ [])
    (stack : List Frame) : Settles (opened ++ stack) complete (left ++ stack) s u := by
  induction h with
  | done => exact absurd rfl hleft
  | comma this => exact .comma this
  | close this _ ih => exact .close this (ih hleft)
  | first this => exact .first this

/-- Behind the end of the brackets that were opened, those around them go on. -/
theorem settlesAfter_append (h : Settles opened complete [] s u)
    (hcomplete : opened = [] → complete = true) (hafter : SettlesAfter stack true u rest) :
    SettlesAfter (opened ++ stack) complete s rest := by
  generalize hleft : ([] : List Frame) = left at h
  induction h with
  | done =>
    rw [hcomplete rfl]
    exact hafter
  | comma | first => cases hleft
  | close this _ ih =>
    obtain ⟨left, v, settled, hend⟩ := ih (fun _ => rfl) hafter hleft
    exact ⟨left, v, .close this settled, hend⟩

/-- **A value that is skipped is skipped inside any brackets**, if what stands behind it is. -/
theorem skipped_append (h : Skipped opened s u) (hafter : SettlesAfter stack true u rest) :
    Skipped (opened ++ stack) s rest := by
  induction h with
  | @done opened frame _ _ _ token settled =>
    refine skipped_of_token token ?_
    rw [← List.append_assoc]
    refine settlesAfter_append settled (fun hnil => ?_) hafter
    cases frame with
    | none => rfl
    | some frame => cases hnil
  | more token settled some_left _ ih =>
    have hsettled := settles_append settled some_left stack
    rw [List.append_assoc] at hsettled
    exact .more token hsettled (List.append_ne_nil_of_left_ne_nil some_left _) (ih hafter)

/-- **A part of a bracket** that is skipped, with what separates it from those before it. -/
def Part (frame : Frame) (first : Bool) : Bytes → Bytes → Prop :=
  Comp (Separator first) (Comp (SkipsTo (· ≠ frame.closer)) (Comp (Enters frame) (Skipped [])))

theorem settlesAfter_part {first : Bool} (h : Part frame first s u)
    (hafter : SettlesAfter (frame :: stack) true u rest) :
    SettlesAfter (frame :: stack) (!first) s rest := by
  obtain ⟨v, separator, w, blanks, x, enters, skipped⟩ := h
  have hskipped : Skipped (frame :: stack) x rest := skipped_append skipped hafter
  cases first with
  | true =>
    obtain rfl := (separator_true_iff.1 separator).2
    exact ⟨_, x, .first ⟨w, blanks, enters⟩, .inr ⟨List.cons_ne_nil _ _, hskipped⟩⟩
  | false =>
    obtain ⟨y, henters, hskipped⟩ := enters_of_skipsTo blanks ⟨x, enters, hskipped⟩
    exact ⟨_, y, .comma ⟨v, separator_false_iff.1 separator, henters⟩,
      .inr ⟨List.cons_ne_nil _ _, hskipped⟩⟩

/-- **What is gone through part by part is skipped** if each part is. -/
theorem settlesAfter_run {σ : Type} {part : Bool → σ → σ → Bytes → Bytes → Prop}
    (hpart : ∀ {first st st' s u}, part first st st' s u → Part frame first s u) {first : Bool}
    {st st' : σ} (h : Run frame part first st st' s u) (hafter : SettlesAfter stack true u rest) :
    SettlesAfter (frame :: stack) (!first) s rest := by
  induction h with
  | close end_ =>
    obtain ⟨left, v, settled, hend⟩ := hafter
    exact ⟨left, v, .close end_ settled, hend⟩
  | next this _ ih => exact settlesAfter_part (hpart this) (ih hafter)

end Brackets

/-! ### Elements and members -/

theorem skippedString_of_reads {text : String} {s rest : Bytes} (h : Reads readString text s rest) :
    SkippedString s rest := by
  obtain ⟨t, ht, rfl⟩ := reads_readString_iff_written.1 h
  exact skippedString_of_body (stringBody_of_textWritten ht) rest

section Parts

variable {σ : Type} {first : Bool} {st st' : σ} {s u : Bytes}

/-- An element is a part of its list if it is skipped. -/
theorem part_of_element {take : σ → σ → Bytes → Bytes → Prop}
    (htake : ∀ {st st' s u}, take st st' s u → Skipped [] s u)
    (h : Element take first st st' s u) : Part .list first s u := by
  obtain ⟨v, ⟨w, separator, blanks⟩, this⟩ := h
  exact ⟨w, separator, v, blanks, v, rfl, htake this⟩

/-- A member is a part of its object if its value is skipped. -/
theorem part_of_keyedValue {take : String → σ → σ → Bytes → Bytes → Prop}
    (htake : ∀ {key st st' s u}, take key st st' s u → Skipped [] s u)
    (h : KeyedValue take first st st' s u) : Part .object first s u := by
  obtain ⟨key, v, ⟨w, ⟨x, separator, y, quote, hread⟩, colon⟩, this⟩ := h
  have hquote : Mark 0x22 (0x22 :: y) y := skipBlanks_cons rfl y
  exact ⟨x, separator, _, skipsTo_of_mark quote (by decide), v,
    ⟨y, hquote, w, skippedString_of_reads hread, colon⟩, htake this⟩

end Parts

/-! ### Decoders -/

namespace Decoder

variable {α β σ : Type} {d : Decoder α}

/-- **What is read is what would be skipped.** -/
def Skips (d : Decoder α) : Prop := ∀ a s rest, Reads d.read a s rest → Skipped [] s rest

theorem skips_string : string.Skips := by
  intro text s rest h
  obtain ⟨u, quote, hread⟩ := reads_string_iff.1 h
  exact skipped_of_token (.string ⟨u, quote, skippedString_of_reads hread⟩) (settlesAfter_nil rest)

theorem Skips.map (h : d.Skips) (f : α → β) : (d.map f).Skips := by
  intro b s rest hs
  obtain ⟨a, -, ha⟩ := reads_map_iff.1 hs
  exact h _ _ _ ha

theorem Skips.orNull (h : d.Skips) : d.orNull.Skips := by
  intro o s rest hs
  rcases reads_orNull_iff.1 hs with ⟨-, hnull⟩ | ⟨a, -, u, hblanks, ha⟩
  · exact skipped_of_token (.null hnull) (settlesAfter_nil rest)
  · exact skipped_of_skipsTo hblanks (h _ _ _ ha)

/-- An item of a list is a part of it. -/
theorem Skips.part_of_item (h : d.Skips) {first : Bool} {l l' : List α} {s u : Bytes}
    (hitem : Element (fun l l' s u => ∃ a, l = a :: l' ∧ Reads d.read a s u) first l l' s u) :
    Part .list first s u := by
  refine part_of_element ?_ hitem
  rintro _ _ s u ⟨a, -, ha⟩
  exact h _ _ _ ha

theorem Skips.list (h : d.Skips) : d.list.Skips := by
  intro l s rest hs
  obtain ⟨u, bracket, hitems⟩ := reads_list_iff.1 hs
  exact skipped_of_token (.list bracket)
    (settlesAfter_run h.part_of_item (items_iff_run.1 hitems) (settlesAfter_nil rest))

end Decoder

section Records

variable {shape : Shape σ α} (hfields : ∀ field ∈ shape.fields, field.content.Skips)
include hfields

theorem skipped_of_member {key : String} {st st' : σ} {s u : Bytes}
    (h : Member shape key st st' s u) : Skipped [] s u := by
  unfold Member at h
  split at h
  · next field hfield =>
    obtain ⟨-, set, -, hread⟩ := h
    exact hfields field (List.mem_of_find?_eq_some hfield) _ _ _ hread
  · exact h.2

/-- A member of a record is a part of its object. -/
theorem part_of_member {first : Bool} {st st' : σ} {s u : Bytes}
    (h : KeyedValue (Member shape) first st st' s u) : Part .object first s u :=
  part_of_keyedValue (skipped_of_member hfields) h

theorem skips_record : (Decoder.record shape).Skips := by
  intro a s rest hs
  rcases Decoder.reads_record_iff.1 hs with ⟨u, bracket, hpositions⟩ | ⟨u, brace, hmembers⟩
  · obtain ⟨left, st', hrun, -⟩ := (positions_iff_run fun _ => id).1 hpositions
    refine skipped_of_token (.list bracket)
      (settlesAfter_run (part_of_element ?_) hrun (settlesAfter_nil rest))
    rintro _ _ s u ⟨field, hfield, _, -, -, hread⟩
    exact hfields field hfield _ _ _ hread
  · obtain ⟨st', hrun, -⟩ := fields_iff_run.1 hmembers
    exact skipped_of_token (.object brace)
      (settlesAfter_run (part_of_member hfields) hrun (settlesAfter_nil rest))

end Records

end CommitGate.Json
