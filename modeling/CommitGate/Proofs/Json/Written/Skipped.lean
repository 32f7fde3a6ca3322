import CommitGate.Proofs.Json.Written.Rows

/-!
# Values that are skipped, as they are written

Any value that is written is skipped up to its end, however deep it is (`reads_skipValue_iff_of_written`). The
loop over the tokens keeps the brackets that are open, so the induction on the value is for any
brackets around it: it is enough that what stands behind the value is skipped with them
(`SettlesAfter`).
-/

namespace CommitGate.Json

open Relation (Comp)
open Text (toBytes toBytes_append toBytes_cons toBytes_nil)

/-- What follows inside the open brackets is skipped to the end of the outermost one. -/
def SettlesAfter (stack : List Frame) (complete : Bool) (s rest : Bytes) : Prop :=
  ∃ left v, Settles stack complete left s v ∧
    (left = [] ∧ v = rest ∨ left ≠ [] ∧ Skipped left v rest)

theorem settlesAfter_nil (s : Bytes) : SettlesAfter [] true s s :=
  ⟨[], s, .done s, .inl ⟨rfl, rfl⟩⟩

theorem skipped_of_token {frame : Option Frame} {stack : List Frame} {s u rest : Bytes}
    (token : Token frame s u)
    (hafter : SettlesAfter (frame.toList ++ stack) frame.isNone u rest) :
    Skipped stack s rest := by
  obtain ⟨left, v, settled, ⟨rfl, rfl⟩ | ⟨some_left, others⟩⟩ := hafter
  · exact .done token settled
  · exact .more token settled some_left others

section Rows

variable {τ : Type} {written : τ → List Char → Prop} {frame : Frame}

/-- The part is skipped wherever what stands behind it is. -/
def PartSkips (frame : Frame) (written : τ → List Char → Prop) (x : τ) : Prop :=
  ∀ {t}, written x t → ∀ {before}, Blanks before → ∀ {w}, Ends w →
    ∀ {stack rest}, SettlesAfter (frame :: stack) true w rest →
      Comp (Enters frame) (Skipped (frame :: stack)) (toBytes before ++ (toBytes t ++ w)) rest

theorem settlesAfter_closer {stack : List Frame} {complete : Bool} {t : List Char} (ht : Blanks t)
    {w rest : Bytes} (hafter : SettlesAfter stack true w rest) :
    SettlesAfter (frame :: stack) complete (toBytes t ++ frame.closer :: w) rest := by
  obtain ⟨left, v, settled, hend⟩ := hafter
  exact ⟨left, v, .close (mark_append (isBlankByte_closer frame) ht w) settled, hend⟩

theorem settlesAfter_behind {xs : List τ} (hparts : ∀ x ∈ xs, PartSkips frame written x)
    {t : List Char} (h : Behind written xs t) {stack : List Frame} {w rest : Bytes}
    (hafter : SettlesAfter stack true w rest) :
    SettlesAfter (frame :: stack) true (toBytes t ++ frame.closer :: w) rest := by
  induction xs generalizing t with
  | nil => exact settlesAfter_closer h hafter
  | cons x xs ih =>
    rw [List.forall_mem_cons] at hparts
    obtain ⟨blanks, u, rfl, hblanks, hrow⟩ := h
    obtain ⟨before, this, behind, rfl, hbefore, hx, hbehind⟩ := row_cons_iff.1 hrow
    obtain ⟨v, henters, hskipped⟩ := hparts.1 hx hbefore (ends_of_behind hbehind frame w)
      (ih hparts.2 hbehind)
    have hcomma := mark_append (b := 0x2C) rfl hblanks
      (toBytes before ++ (toBytes this ++ (toBytes behind ++ frame.closer :: w)))
    refine ⟨frame :: stack, v, .comma ⟨_, ?_, henters⟩, .inr ⟨List.cons_ne_nil _ _, hskipped⟩⟩
    simpa [encode_comma] using hcomma

theorem settlesAfter_row {xs : List τ} (hparts : ∀ x ∈ xs, PartSkips frame written x)
    (hstarts : ∀ {x t}, written x t →
      ∃ b u, toBytes t = b :: u ∧ isBlankByte b = false ∧ b ≠ frame.closer)
    {t : List Char} (h : Row written xs t) {stack : List Frame} {w rest : Bytes}
    (hafter : SettlesAfter stack true w rest) :
    SettlesAfter (frame :: stack) false (toBytes t ++ frame.closer :: w) rest := by
  cases xs with
  | nil => exact settlesAfter_closer (row_nil_iff.1 h) hafter
  | cons x xs =>
    rw [List.forall_mem_cons] at hparts
    obtain ⟨before, this, behind, rfl, hbefore, hx, hbehind⟩ := row_cons_iff.1 h
    obtain ⟨v, henters, hskipped⟩ := hparts.1 hx blanks_nil
      (ends_of_behind hbehind frame w) (settlesAfter_behind hparts.2 hbehind hafter)
    obtain ⟨b, u, hbytes, hblank, hb⟩ := hstarts hx
    rw [hbytes, toBytes_nil, List.nil_append, List.cons_append] at henters
    refine ⟨frame :: stack, v, .first ⟨_, ⟨b, _, ?_, hb, rfl⟩, henters⟩,
      .inr ⟨List.cons_ne_nil _ _, hskipped⟩⟩
    rw [toBytes_append, toBytes_append, List.append_assoc, List.append_assoc,
      skipBlanks_append hbefore, hbytes, List.cons_append, skipBlanks_cons hblank]

end Rows

/-- A part of an object is skipped if its value is. -/
theorem partSkips_member {m : List Char × Node} (hvalue : ∀ {t}, m.2.Written t →
      ∀ {before}, Blanks before → ∀ {w}, Ends w → ∀ {stack rest}, SettlesAfter stack true w rest →
        Skipped stack (toBytes before ++ (toBytes t ++ w)) rest) :
    PartSkips .object (MemberWritten Node.Written) m := by
  rintro _ ⟨hkey, hbehind, hafter, hn⟩ before hbefore w hw stack rest hsettles
  have hquote := mark_append (b := 0x22) rfl hbefore
  have hcolon := mark_append (b := 0x3A) rfl hbehind
  refine ⟨_, ⟨_, ?_, _, skippedString_of_body hkey _, hcolon _⟩, hvalue hn hafter hw hsettles⟩
  simpa [encode_quote, encode_colon] using hquote _

/-- **A value that is written is skipped wherever what stands behind it is.** -/
theorem skipped_of_written {n : Node} {t : List Char} (h : n.Written t) {before : List Char}
    (hbefore : Blanks before) {w : Bytes} (hw : Ends w) {stack : List Frame} {rest : Bytes}
    (hafter : SettlesAfter stack true w rest) :
    Skipped stack (toBytes before ++ (toBytes t ++ w)) rest := by
  -- the reader keeps a stack and never returns from a value, so the induction is over all that may
  -- stand behind it and over all stacks
  induction n using Node.induction generalizing t before w stack rest with
  | null =>
    cases h
    exact skipped_of_token (.null ⟨_, mark_append rfl hbefore _, rfl⟩) hafter
  | boolean b =>
    cases h with
    | true => exact skipped_of_token (.true ⟨_, mark_append rfl hbefore _, rfl⟩) hafter
    | false => exact skipped_of_token (.false ⟨_, mark_append rfl hbefore _, rfl⟩) hafter
  | number t =>
    obtain ⟨b, u, ht, hb⟩ := h.exists_opens
    have hfront := h.skipBlanks hbefore w
    cases h with
    | number hnumber =>
      obtain ⟨n, hn⟩ := exists_spelled_of_written hnumber
      refine skipped_of_token (.number ⟨_, ⟨b, u ++ w, ?_, hb, rfl⟩, (?_ : Spelled n _ _)⟩) hafter
      · rw [hfront, ht, List.cons_append]
      · have hspelled := hn w hw
        rwa [ht] at hspelled
  | string t =>
    cases h with
    | string hbody =>
      exact skipped_of_token (.string ⟨_, mark_string hbefore t w, skippedString_of_body hbody w⟩)
        hafter
  | list items ih =>
    cases h with
    | @list _ t hrow =>
      have hparts : ∀ n ∈ items, PartSkips .list Node.Written n := by
        intro n hn t ht before hbefore w hw stack rest hafter
        exact ⟨_, rfl, ih n hn ht hbefore hw hafter⟩
      exact skipped_of_token (.list (mark_list hbefore t w))
        (settlesAfter_row hparts (fun h => starts_of_written h .list) hrow hafter)
  | object members ih =>
    cases h with
    | @object _ t hrow =>
      have hparts : ∀ m ∈ members, PartSkips .object (MemberWritten Node.Written) m :=
        fun m hm => partSkips_member (ih m hm)
      exact skipped_of_token (.object (mark_object hbefore t w))
        (settlesAfter_row hparts (fun h => starts_of_memberWritten h .object) hrow hafter)

/-- **Any value that is written is skipped up to its end.** -/
theorem reads_skipValue_iff_of_written {n : Node} {t : List Char} (h : n.Written t)
    {before : List Char} (hbefore : Blanks before) {rest rest' : Bytes} (hrest : Ends rest) :
    Reads skipValue () (toBytes before ++ (toBytes t ++ rest)) rest' ↔ rest' = rest := by
  have hskip := reads_skipValue_iff.2 (skipped_of_written h hbefore hrest (settlesAfter_nil rest))
  constructor
  · exact fun h' => (reads_unique h' hskip).2
  · rintro rfl
    exact hskip

end CommitGate.Json
