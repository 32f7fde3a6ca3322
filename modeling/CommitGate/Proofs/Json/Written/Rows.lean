import CommitGate.Proofs.Json.Record
import CommitGate.Proofs.Json.Written.Numbers
import CommitGate.Proofs.Json.Written.Strings

/-!
# Lists and objects as they are written

A list and an object are rows of parts in brackets, and every reader of one goes through the parts
and keeps something of its own meanwhile (`Run`). What the reader does with a part as it is written
(`PartLaw`) tells what it does with the row (`run_iff_of_row`); and a run that ends has gone through
a row (`exists_row_of_run`).
-/

namespace CommitGate.Json

open Relation (Comp)
open Text (toBytes toBytes_append toBytes_cons toBytes_nil)

/-! ### Blanks -/

theorem isBlankByte_of_mem_toBytes {t : List Char} (h : Blanks t) :
    ∀ b ∈ toBytes t, isBlankByte b = true := by
  induction t with
  | nil => exact List.forall_mem_nil _
  | cons c t ih =>
    obtain ⟨hc, ht⟩ := List.forall_mem_cons.1 h
    obtain ⟨b, hb, hblank⟩ : ∃ b, String.utf8EncodeChar c = [b] ∧ isBlankByte b = true := by
      simp only [List.mem_cons, List.not_mem_nil, or_false] at hc
      rcases hc with rfl | rfl | rfl | rfl <;> exact ⟨_, rfl, rfl⟩
    rw [toBytes_cons, hb, List.singleton_append, List.forall_mem_cons]
    exact ⟨hblank, ih ht⟩

theorem exists_blanks_of_isBlankByte {s : Bytes} (h : ∀ b ∈ s, isBlankByte b = true) :
    ∃ t, Blanks t ∧ s = toBytes t := by
  induction s with
  | nil => exact ⟨[], List.forall_mem_nil _, rfl⟩
  | cons b s ih =>
    rw [List.forall_mem_cons] at h
    obtain ⟨t, ht, rfl⟩ := ih h.2
    obtain ⟨c, hc, hbytes⟩ :
        ∃ c ∈ [' ', '\t', '\n', '\r'], String.utf8EncodeChar c = [b] := by
      have hb := h.1
      simp only [isBlankByte, Bool.or_eq_true, beq_iff_eq] at hb
      rcases hb with ((rfl | rfl) | rfl) | rfl
      · exact ⟨' ', by simp, rfl⟩
      · exact ⟨'\t', by simp, rfl⟩
      · exact ⟨'\n', by simp, rfl⟩
      · exact ⟨'\r', by simp, rfl⟩
    exact ⟨c :: t, List.forall_mem_cons.2 ⟨hc, ht⟩, by rw [toBytes_cons, hbytes]; rfl⟩

theorem skipBlanks_append {t : List Char} (h : Blanks t) (s : Bytes) :
    skipBlanks (toBytes t ++ s) = skipBlanks s :=
  List.dropWhile_append_of_pos (isBlankByte_of_mem_toBytes h)

theorem skipBlanks_cons {b : UInt8} (h : isBlankByte b = false) (s : Bytes) :
    skipBlanks (b :: s) = b :: s :=
  List.dropWhile_cons_of_neg (by simp [h])

theorem exists_blanks_of_mark {b : UInt8} {s rest : Bytes} (h : Mark b s rest) :
    ∃ t, Blanks t ∧ s = toBytes t ++ b :: rest := by
  obtain ⟨blanks, rfl, hblanks, -⟩ := skipBlanks_eq_cons_iff.1 h
  obtain ⟨t, ht, rfl⟩ := exists_blanks_of_isBlankByte hblanks
  exact ⟨t, ht, rfl⟩

theorem mark_append {b : UInt8} (hb : isBlankByte b = false) {t : List Char} (h : Blanks t)
    (rest : Bytes) : Mark b (toBytes t ++ b :: rest) rest := by
  rw [Mark, skipBlanks_append h, skipBlanks_cons hb]

theorem mark_unique {b c : UInt8} {s rest rest' : Bytes} (h : Mark b s rest)
    (h' : Mark c s rest') : b = c ∧ rest = rest' :=
  List.cons.inj (h.symm.trans h')

theorem separator_unique {first : Bool} {s u v : Bytes} (h : Separator first s u)
    (h' : Separator first s v) : u = v := by
  cases first with
  | true => exact Eq.trans h h'.symm
  | false => exact (mark_unique h h').2

theorem ends_nil : Ends [] := by
  rintro b ⟨⟩

theorem ends_cons {b : UInt8} (h : isDigit b = false ∧ b ∉ [0x2E, 0x65, 0x45]) (s : Bytes) :
    Ends (b :: s) := by
  rintro _ ⟨⟩
  exact h

theorem ends_append {t : List Char} (h : Blanks t) {s : Bytes} (hs : Ends s) :
    Ends (toBytes t ++ s) := by
  have hblanks := isBlankByte_of_mem_toBytes h
  rcases hbytes : toBytes t with _ | ⟨b, u⟩
  · exact hs
  · rw [hbytes, List.forall_mem_cons] at hblanks
    have hb := hblanks.1
    simp only [isBlankByte, Bool.or_eq_true, beq_iff_eq] at hb
    rw [List.cons_append]
    rcases hb with ((rfl | rfl) | rfl) | rfl <;> exact ends_cons (by decide) _

theorem ends_closer (frame : Frame) (s : Bytes) : Ends (frame.closer :: s) := by
  cases frame <;> exact ends_cons (by decide) s

theorem isBlankByte_closer (frame : Frame) : isBlankByte frame.closer = false := by
  cases frame <;> rfl

theorem encode_comma : String.utf8EncodeChar ',' = [0x2C] := rfl

/-! ### Rows -/

section Rows

variable {τ σ : Type} {written : τ → List Char → Prop}

/-- What may stand behind a part of a row, with the parts behind it. -/
def Behind (written : τ → List Char → Prop) : List τ → List Char → Prop
  | [], t => Blanks t
  | x :: xs, t => ∃ blanks u, t = blanks ++ ',' :: u ∧ Blanks blanks ∧ Row written (x :: xs) u

theorem row_nil_iff {t : List Char} : Row written [] t ↔ Blanks t := by
  constructor
  · rintro ⟨blanks⟩
    exact blanks
  · exact .none

theorem row_cons_iff {x : τ} {xs : List τ} {t : List Char} :
    Row written (x :: xs) t ↔ ∃ before this behind, t = before ++ this ++ behind ∧
      Blanks before ∧ written x this ∧ Behind written xs behind := by
  constructor
  · rintro (_ | ⟨hbefore, this, hbehind⟩ | ⟨hbefore, this, hbehind, others⟩)
    · exact ⟨_, _, _, rfl, hbefore, this, hbehind⟩
    · exact ⟨_, _, _, List.append_assoc .., hbefore, this, _, _, rfl, hbehind, others⟩
  · rintro ⟨before, t, behind, rfl, hbefore, this, hbehind⟩
    cases xs with
    | nil => exact .one hbefore this hbehind
    | cons y ys =>
      obtain ⟨blanks, u, rfl, hblanks, others⟩ := hbehind
      rw [← List.append_assoc]
      exact .more hbefore this hblanks others

/-- What stands behind a part of a row does not go on with it. -/
theorem ends_of_behind {xs : List τ} {t : List Char} (h : Behind written xs t) (frame : Frame)
    (rest : Bytes) : Ends (toBytes t ++ frame.closer :: rest) := by
  cases xs with
  | nil => exact ends_append h (ends_closer frame rest)
  | cons x xs =>
    obtain ⟨blanks, u, rfl, hblanks, -⟩ := h
    rw [toBytes_append, List.append_assoc, toBytes_cons, encode_comma]
    exact ends_append hblanks (ends_cons (by decide) _)

/-- The elements lead from `st` to `st'`, one after the other. -/
inductive Leads (effect : τ → σ → σ → Prop) : List τ → σ → σ → Prop
  | nil (st : σ) : Leads effect [] st st
  | cons {x : τ} {xs : List τ} {st st' st'' : σ} (this : effect x st st')
    (others : Leads effect xs st' st'') : Leads effect (x :: xs) st st''

theorem leads_nil_iff {effect : τ → σ → σ → Prop} {st st' : σ} :
    Leads effect [] st st' ↔ st = st' := by
  constructor
  · rintro ⟨⟩
    rfl
  · rintro rfl
    exact .nil st

theorem leads_cons_iff {effect : τ → σ → σ → Prop} {x : τ} {xs : List τ} {st st'' : σ} :
    Leads effect (x :: xs) st st'' ↔ ∃ st', effect x st st' ∧ Leads effect xs st' st'' := by
  constructor
  · rintro (_ | ⟨this, others⟩)
    exact ⟨_, this, others⟩
  · rintro ⟨st', this, others⟩
    exact .cons this others

/-- **Going through the parts of a row** from some of them on, with what is kept meanwhile, up to the
closing bracket. -/
inductive Run (frame : Frame) (part : Bool → σ → σ → Bytes → Bytes → Prop) :
    Bool → σ → σ → Bytes → Bytes → Prop
  | close {first : Bool} {st : σ} {s rest : Bytes} (end_ : Mark frame.closer s rest) :
    Run frame part first st st s rest
  | next {first : Bool} {st st' st'' : σ} {s u rest : Bytes} (this : part first st st' s u)
    (others : Run frame part false st' st'' u rest) : Run frame part first st st'' s rest

variable {frame : Frame} {part : Bool → σ → σ → Bytes → Bytes → Prop} {effect : τ → σ → σ → Prop}

/-- **What becomes of a part as it is written.** -/
structure PartLaw (frame : Frame) (part : Bool → σ → σ → Bytes → Bytes → Prop)
    (written : τ → List Char → Prop) (effect : τ → σ → σ → Prop) : Prop where
  starts : ∀ {x t}, written x t →
    ∃ b u, toBytes t = b :: u ∧ isBlankByte b = false ∧ b ≠ frame.closer
  not_closer : ∀ {first st st' s u rest}, part first st st' s u → ¬ Mark frame.closer s rest
  part_iff : ∀ {x t}, written x t → ∀ {before}, Blanks before → ∀ {rest}, Ends rest →
    ∀ {first s}, Separator first s (toBytes before ++ (toBytes t ++ rest)) →
      ∀ {st st' u}, part first st st' s u ↔ effect x st st' ∧ u = rest

theorem not_closer_of_part (law : PartLaw frame part written effect) {x : τ} {t : List Char}
    (hx : written x t) {before : List Char} (hbefore : Blanks before) {first : Bool}
    {s rest rest' : Bytes} (hs : Separator first s (toBytes before ++ (toBytes t ++ rest))) :
    ¬ Mark frame.closer s rest' := by
  intro hmark
  cases first with
  | true =>
    obtain ⟨b, u, ht, hblank, hb⟩ := law.starts hx
    obtain rfl := separator_true_iff.1 hs |>.2
    rw [Mark, skipBlanks_append hbefore, ht, List.cons_append, skipBlanks_cons hblank] at hmark
    exact hb (List.cons.inj hmark).1
  | false =>
    have hcomma := (mark_unique (separator_false_iff.1 hs) hmark).1
    revert hcomma
    cases frame <;> decide

theorem run_iff_of_part (law : PartLaw frame part written effect) {x : τ} {t : List Char}
    (hx : written x t) {before : List Char} (hbefore : Blanks before) {rest : Bytes}
    (hrest : Ends rest) {first : Bool} {s : Bytes}
    (hs : Separator first s (toBytes before ++ (toBytes t ++ rest))) {st st'' : σ} {rest' : Bytes} :
    Run frame part first st st'' s rest' ↔
      ∃ st', effect x st st' ∧ Run frame part false st' st'' rest rest' := by
  constructor
  · rintro (end_ | ⟨this, others⟩)
    · exact absurd end_ (not_closer_of_part law hx hbefore hs)
    · obtain ⟨heffect, rfl⟩ := (law.part_iff hx hbefore hrest hs).1 this
      exact ⟨_, heffect, others⟩
  · rintro ⟨st', heffect, others⟩
    exact .next ((law.part_iff hx hbefore hrest hs).2 ⟨heffect, rfl⟩) others

theorem run_iff_of_blanks (law : PartLaw frame part written effect) {t : List Char}
    (ht : Blanks t) {first : Bool} {st st' : σ} {rest rest' : Bytes} :
    Run frame part first st st' (toBytes t ++ frame.closer :: rest) rest' ↔
      st = st' ∧ rest' = rest := by
  have hmark := mark_append (isBlankByte_closer frame) ht rest
  constructor
  · rintro (end_ | ⟨this, -⟩)
    · exact ⟨rfl, (mark_unique hmark end_).2.symm⟩
    · exact absurd hmark (law.not_closer this)
  · rintro ⟨rfl, rfl⟩
    exact .close hmark

theorem run_iff_of_behind (law : PartLaw frame part written effect) {xs : List τ} {t : List Char}
    (h : Behind written xs t) {st st' : σ} {rest rest' : Bytes} :
    Run frame part false st st' (toBytes t ++ frame.closer :: rest) rest' ↔
      Leads effect xs st st' ∧ rest' = rest := by
  induction xs generalizing t st with
  | nil => rw [run_iff_of_blanks law h, leads_nil_iff]
  | cons x xs ih =>
    obtain ⟨blanks, u, rfl, hblanks, hrow⟩ := h
    obtain ⟨before, this, behind, rfl, hbefore, hx, hbehind⟩ := row_cons_iff.1 hrow
    have hs : Separator false (toBytes (blanks ++ ',' :: (before ++ this ++ behind)) ++
          frame.closer :: rest)
        (toBytes before ++ (toBytes this ++ (toBytes behind ++ frame.closer :: rest))) := by
      rw [separator_false_iff, toBytes_append, toBytes_cons, encode_comma, List.append_assoc]
      simpa using mark_append (b := 0x2C) rfl hblanks _
    rw [run_iff_of_part law hx hbefore (ends_of_behind hbehind frame rest) hs, leads_cons_iff]
    simp only [ih hbehind, ← and_assoc, exists_and_right]

/-- **A row is gone through as it is written**, part by part and up to its closing bracket. -/
theorem run_iff_of_row (law : PartLaw frame part written effect) {xs : List τ} {t : List Char}
    (h : Row written xs t) {st st' : σ} {rest rest' : Bytes} :
    Run frame part true st st' (toBytes t ++ frame.closer :: rest) rest' ↔
      Leads effect xs st st' ∧ rest' = rest := by
  cases xs with
  | nil => rw [run_iff_of_blanks law (row_nil_iff.1 h), leads_nil_iff]
  | cons x xs =>
    obtain ⟨before, this, behind, rfl, hbefore, hx, hbehind⟩ := row_cons_iff.1 h
    have hs : Separator true (toBytes (before ++ this ++ behind) ++ frame.closer :: rest)
        (toBytes before ++ (toBytes this ++ (toBytes behind ++ frame.closer :: rest))) := by
      simp [Separator]
    rw [run_iff_of_part law hx hbefore (ends_of_behind hbehind frame rest) hs, leads_cons_iff]
    simp only [run_iff_of_behind law hbehind, ← and_assoc, exists_and_right]

/-- **What a run goes through is written as a row**, if its parts are written. -/
theorem exists_row_of_run
    (hpart : ∀ {first st st' s u}, part first st st' s u → ∃ x before t,
      Separator first s (toBytes before ++ (toBytes t ++ u)) ∧ Blanks before ∧ written x t)
    {first : Bool} {st st' : σ} {s rest : Bytes} (h : Run frame part first st st' s rest) :
    ∃ xs t, (if first then Row written xs t else Behind written xs t) ∧
      s = toBytes t ++ frame.closer :: rest := by
  -- only the first part has no comma in front, so rows and what stands behind a part go together
  induction h with
  | @close first st s rest end_ =>
    obtain ⟨t, ht, rfl⟩ := exists_blanks_of_mark end_
    refine ⟨[], t, ?_, rfl⟩
    cases first with
    | true => exact .none ht
    | false => exact ht
  | @next first st st' st'' s u rest this _ ih =>
    obtain ⟨xs, behind, hbehind, rfl⟩ := ih
    obtain ⟨x, before, t, hs, hbefore, hx⟩ := hpart this
    have hrow : Row written (x :: xs) (before ++ t ++ behind) :=
      row_cons_iff.2 ⟨before, t, behind, rfl, hbefore, hx, hbehind⟩
    cases first with
    | true =>
      refine ⟨x :: xs, _, hrow, ?_⟩
      obtain rfl := separator_true_iff.1 hs |>.2
      simp
    | false =>
      obtain ⟨blanks, hblanks, rfl⟩ := exists_blanks_of_mark (separator_false_iff.1 hs)
      refine ⟨x :: xs, _, ⟨blanks, _, rfl, hblanks, hrow⟩, ?_⟩
      simp [encode_comma]

end Rows

/-! ### Values in rows -/

/-- The first byte of a value tells its kind. -/
def Node.Opens : Node → UInt8 → Prop
  | null, b => b = 0x6E
  | boolean true, b => b = 0x74
  | boolean false, b => b = 0x66
  | number _, b => b = 0x2D ∨ isDigit b = true
  | string _, b => b = 0x22
  | list _, b => b = 0x5B
  | object _, b => b = 0x7B

theorem exists_opens_of_number {t : List Char} (h : NumberWritten t) :
    ∃ b u, toBytes t = b :: u ∧ (b = 0x2D ∨ isDigit b = true) := by
  obtain ⟨sign, whole, fraction, power, rfl, hsign, ⟨hne, hdigits⟩, -⟩ := h
  simp only [List.mem_cons, List.not_mem_nil, or_false] at hsign
  rcases hsign with rfl | rfl
  · obtain ⟨c, whole, rfl⟩ := List.exists_cons_of_ne_nil hne
    obtain ⟨b, hb, hdigit⟩ := encode_of_isDigit (hdigits c List.mem_cons_self)
    refine ⟨b, toBytes (whole ++ fraction ++ power), ?_, .inr hdigit⟩
    simp [hb]
  · exact ⟨0x2D, toBytes (whole ++ fraction ++ power), by simp; rfl, .inl rfl⟩

theorem Node.Written.exists_opens {n : Node} {t : List Char} (h : n.Written t) :
    ∃ b u, toBytes t = b :: u ∧ n.Opens b := by
  cases h with
  | null => exact ⟨_, _, rfl, rfl⟩
  | true => exact ⟨_, _, rfl, rfl⟩
  | false => exact ⟨_, _, rfl, rfl⟩
  | number h => exact exists_opens_of_number h
  | string => exact ⟨_, _, toBytes_cons .., rfl⟩
  | list => exact ⟨_, _, toBytes_cons .., rfl⟩
  | object => exact ⟨_, _, toBytes_cons .., rfl⟩

theorem Node.Opens.ne_of_forall {n : Node} {b c : UInt8} (h : n.Opens b)
    (hc : c ∉ [0x6E, 0x74, 0x66, 0x2D, 0x22, 0x5B, 0x7B] ∧ isDigit c = false) : b ≠ c := by
  rintro rfl
  simp only [List.mem_cons, List.not_mem_nil, or_false, not_or] at hc
  rcases n with _ | (_ | _) | _ | _ | _ | _ <;> simp_all [Node.Opens]

theorem Node.Opens.not_blank {n : Node} {b : UInt8} (h : n.Opens b) : isBlankByte b = false := by
  have hne : ∀ c ∈ [0x20, 0x09, 0x0A, 0x0D], b ≠ c := fun c hc => h.ne_of_forall (by
    revert c
    decide +kernel)
  simp only [List.forall_mem_cons] at hne
  simp [isBlankByte, hne]

theorem Node.Opens.ne_closer {n : Node} {b : UInt8} (h : n.Opens b) (frame : Frame) :
    b ≠ frame.closer := h.ne_of_forall (by cases frame <;> decide)

/-- A value shows at its start that the row goes on. -/
theorem starts_of_written {n : Node} {t : List Char} (h : n.Written t) (frame : Frame) :
    ∃ b u, toBytes t = b :: u ∧ isBlankByte b = false ∧ b ≠ frame.closer := by
  obtain ⟨b, u, ht, hb⟩ := h.exists_opens
  exact ⟨b, u, ht, hb.not_blank, hb.ne_closer frame⟩

theorem Node.Written.skipBlanks {n : Node} {t : List Char} (h : n.Written t) {before : List Char}
    (hbefore : Blanks before) (rest : Bytes) :
    skipBlanks (toBytes before ++ (toBytes t ++ rest)) = toBytes t ++ rest := by
  obtain ⟨b, u, ht, hb⟩ := h.exists_opens
  rw [skipBlanks_append hbefore, ht, List.cons_append, skipBlanks_cons hb.not_blank]

theorem encode_quote : String.utf8EncodeChar '\x22' = [0x22] := rfl

theorem encode_colon : String.utf8EncodeChar ':' = [0x3A] := rfl

theorem starts_of_memberWritten {written : Node → List Char → Prop} {m : List Char × Node}
    {t : List Char} (h : MemberWritten written m t) (frame : Frame) :
    ∃ b u, toBytes t = b :: u ∧ isBlankByte b = false ∧ b ≠ frame.closer := by
  obtain ⟨-, -, -, -⟩ := h
  refine ⟨0x22, _, by simp [encode_quote]; rfl, rfl, ?_⟩
  cases frame <;> decide

theorem toBytes_string (t : List Char) (rest : Bytes) :
    toBytes ('\x22' :: t ++ ['\x22']) ++ rest = 0x22 :: (toBytes t ++ 0x22 :: rest) := by
  simp [encode_quote]

theorem toBytes_list (t : List Char) (rest : Bytes) :
    toBytes ('[' :: t ++ [']']) ++ rest = 0x5B :: (toBytes t ++ 0x5D :: rest) := by
  have hopen : String.utf8EncodeChar '[' = [0x5B] := rfl
  have hclose : String.utf8EncodeChar ']' = [0x5D] := rfl
  simp [hopen, hclose]

theorem toBytes_object (t : List Char) (rest : Bytes) :
    toBytes ('\x7b' :: t ++ ['\x7d']) ++ rest = 0x7B :: (toBytes t ++ 0x7D :: rest) := by
  have hopen : String.utf8EncodeChar '\x7b' = [0x7B] := rfl
  have hclose : String.utf8EncodeChar '\x7d' = [0x7D] := rfl
  simp [hopen, hclose]

/-- Behind blanks, the opening quote of a string. -/
theorem mark_string {before : List Char} (h : Blanks before) (t : List Char) (rest : Bytes) :
    Mark 0x22 (toBytes before ++ (toBytes ('\x22' :: t ++ ['\x22']) ++ rest))
      (toBytes t ++ 0x22 :: rest) := by
  rw [toBytes_string]
  exact mark_append rfl h _

/-- Behind blanks, the opening bracket of a list. -/
theorem mark_list {before : List Char} (h : Blanks before) (t : List Char) (rest : Bytes) :
    Mark 0x5B (toBytes before ++ (toBytes ('[' :: t ++ [']']) ++ rest))
      (toBytes t ++ 0x5D :: rest) := by
  rw [toBytes_list]
  exact mark_append rfl h _

/-- Behind blanks, the opening brace of an object. -/
theorem mark_object {before : List Char} (h : Blanks before) (t : List Char) (rest : Bytes) :
    Mark 0x7B (toBytes before ++ (toBytes ('\x7b' :: t ++ ['\x7d']) ++ rest))
      (toBytes t ++ 0x7D :: rest) := by
  rw [toBytes_object]
  exact mark_append rfl h _

/-! ### What a value that is written starts with -/

section Starts

variable {n : Node} {t : List Char} {before : List Char} {rest u : Bytes}

theorem opens_of_mark (hn : n.Written t) (hbefore : Blanks before) {b : UInt8}
    (h : Mark b (toBytes before ++ (toBytes t ++ rest)) u) : n.Opens b := by
  obtain ⟨c, v, ht, hc⟩ := hn.exists_opens
  rw [Mark, hn.skipBlanks hbefore, ht] at h
  obtain rfl : c = b := (List.cons.inj h).1
  exact hc

theorem opens_null_iff : n.Opens 0x6E ↔ n = .null := by
  rcases n with _ | (_ | _) | _ | _ | _ | _ <;> simp [Node.Opens]
  decide

theorem opens_string_iff : n.Opens 0x22 ↔ ∃ body, n = .string body := by
  rcases n with _ | (_ | _) | _ | _ | _ | _ <;> simp [Node.Opens]
  decide

theorem opens_list_iff : n.Opens 0x5B ↔ ∃ items, n = .list items := by
  rcases n with _ | (_ | _) | _ | _ | _ | _ <;> simp [Node.Opens]
  decide

theorem opens_object_iff : n.Opens 0x7B ↔ ∃ members, n = .object members := by
  rcases n with _ | (_ | _) | _ | _ | _ | _ <;> simp [Node.Opens]
  decide

theorem comp_mark_null_iff (hn : n.Written t) (hbefore : Blanks before) :
    Comp (Mark 0x6E) (Literal [0x75, 0x6C, 0x6C]) (toBytes before ++ (toBytes t ++ rest)) u ↔
      n = .null ∧ u = rest := by
  have hnull : Mark 0x6E (toBytes before ++ (toBytes ['n', 'u', 'l', 'l'] ++ rest))
      ([0x75, 0x6C, 0x6C] ++ rest) := mark_append rfl hbefore _
  constructor
  · rintro ⟨v, hmark, hword⟩
    obtain rfl := opens_null_iff.1 (opens_of_mark hn hbefore hmark)
    cases hn
    obtain ⟨-, rfl⟩ := mark_unique hnull hmark
    exact ⟨rfl, (List.append_cancel_left hword).symm⟩
  · rintro ⟨rfl, rfl⟩
    cases hn
    exact ⟨_, hnull, rfl⟩

variable {step : Bytes → Bytes → Prop}

theorem comp_mark_string_iff (hn : n.Written t) (hbefore : Blanks before) :
    Comp (Mark 0x22) step (toBytes before ++ (toBytes t ++ rest)) u ↔
      ∃ body, n = .string body ∧ StringBody body ∧ t = '\x22' :: body ++ ['\x22'] ∧
        step (toBytes body ++ 0x22 :: rest) u := by
  constructor
  · rintro ⟨v, hmark, hstep⟩
    obtain ⟨body, rfl⟩ := opens_string_iff.1 (opens_of_mark hn hbefore hmark)
    cases hn with
    | string hbody =>
      obtain ⟨-, rfl⟩ := mark_unique (mark_string hbefore body rest) hmark
      exact ⟨body, rfl, hbody, rfl, hstep⟩
  · rintro ⟨body, rfl, -, rfl, hstep⟩
    exact ⟨_, mark_string hbefore body rest, hstep⟩

theorem comp_mark_list_iff (hn : n.Written t) (hbefore : Blanks before) :
    Comp (Mark 0x5B) step (toBytes before ++ (toBytes t ++ rest)) u ↔
      ∃ items row, n = .list items ∧ Row Node.Written items row ∧ t = '[' :: row ++ [']'] ∧
        step (toBytes row ++ 0x5D :: rest) u := by
  constructor
  · rintro ⟨v, hmark, hstep⟩
    obtain ⟨items, rfl⟩ := opens_list_iff.1 (opens_of_mark hn hbefore hmark)
    cases hn with
    | @list _ row hrow =>
      obtain ⟨-, rfl⟩ := mark_unique (mark_list hbefore row rest) hmark
      exact ⟨items, row, rfl, hrow, rfl, hstep⟩
  · rintro ⟨items, row, rfl, -, rfl, hstep⟩
    exact ⟨_, mark_list hbefore row rest, hstep⟩

theorem comp_mark_object_iff (hn : n.Written t) (hbefore : Blanks before) :
    Comp (Mark 0x7B) step (toBytes before ++ (toBytes t ++ rest)) u ↔
      ∃ members row, n = .object members ∧ Row (MemberWritten Node.Written) members row ∧
        t = '\x7b' :: row ++ ['\x7d'] ∧ step (toBytes row ++ 0x7D :: rest) u := by
  constructor
  · rintro ⟨v, hmark, hstep⟩
    obtain ⟨members, rfl⟩ := opens_object_iff.1 (opens_of_mark hn hbefore hmark)
    cases hn with
    | @object _ row hrow =>
      obtain ⟨-, rfl⟩ := mark_unique (mark_object hbefore row rest) hmark
      exact ⟨members, row, rfl, hrow, rfl, hstep⟩
  · rintro ⟨members, row, rfl, -, rfl, hstep⟩
    exact ⟨_, mark_object hbefore row rest, hstep⟩

end Starts

/-! ### Elements and members -/

section Brackets

variable {σ : Type}

/-- An element of a list, of which a reader makes something by `take`. -/
def Element (take : σ → σ → Bytes → Bytes → Prop) (first : Bool) (st st' : σ) :
    Bytes → Bytes → Prop :=
  Comp (Comp (Separator first) (SkipsTo (· ≠ 0x5D))) (take st st')

/-- A member of an object, of which a reader makes something by `take`. -/
def KeyedValue (take : String → σ → σ → Bytes → Bytes → Prop) (first : Bool) (st st' : σ)
    (s rest : Bytes) : Prop :=
  ∃ key, Comp (Key first key) (take key st st') s rest

theorem partLaw_element {take : σ → σ → Bytes → Bytes → Prop} {effect : Node → σ → σ → Prop}
    (htake : ∀ {n t}, Node.Written n t → ∀ {rest}, Ends rest → ∀ {st st' u},
      take st st' (toBytes t ++ rest) u ↔ effect n st st' ∧ u = rest) :
    PartLaw .list (Element take) Node.Written effect where
  starts h := starts_of_written h .list
  not_closer := by
    rintro first st st' s u rest ⟨v, ⟨w, hsep, hskip⟩, -⟩ hmark
    cases first with
    | true =>
      obtain rfl := separator_true_iff.1 hsep |>.2
      exact ((skipsTo_iff_of_cons hmark).1 hskip).1 rfl
    | false => exact absurd (mark_unique (separator_false_iff.1 hsep) hmark).1 (by decide)
  part_iff := by
    intro n t hn before hbefore rest hrest first s hs st st' u
    rw [← htake hn hrest]
    obtain ⟨b, v, ht, hb⟩ := hn.exists_opens
    have hfront := hn.skipBlanks hbefore rest
    rw [ht, List.cons_append] at hfront ⊢
    constructor
    · rintro ⟨_, ⟨w, hsep, hskip⟩, htaken⟩
      obtain rfl := separator_unique hs hsep
      rw [ht, List.cons_append] at hskip
      obtain ⟨-, rfl⟩ := (skipsTo_iff_of_cons hfront).1 hskip
      exact htaken
    · intro htaken
      refine ⟨_, ⟨_, hs, ?_⟩, htaken⟩
      rw [ht, List.cons_append]
      exact (skipsTo_iff_of_cons hfront).2 ⟨hb.ne_closer .list, rfl⟩

/-- A key is read as the text that it is written for, and its colon with it. -/
theorem key_iff_of_body {body : List Char} (hbody : StringBody body) {before behind : List Char}
    (hbefore : Blanks before) (hbehind : Blanks behind) {first : Bool} {s z : Bytes}
    (hs : Separator first s (toBytes before ++
      0x22 :: (toBytes body ++ 0x22 :: (toBytes behind ++ 0x3A :: z)))) {key : String} {v : Bytes} :
    Key first key s v ↔ TextWritten key.toList body ∧ v = z := by
  have hquote := mark_append (b := 0x22) rfl hbefore
    (toBytes body ++ 0x22 :: (toBytes behind ++ 0x3A :: z))
  have hcolon := mark_append (b := 0x3A) rfl hbehind z
  constructor
  · rintro ⟨m, ⟨w, hsep, y, hmark, hread⟩, hmark'⟩
    obtain rfl := separator_unique hs hsep
    obtain ⟨-, rfl⟩ := mark_unique hquote hmark
    obtain ⟨htext, rfl⟩ := (reads_readString_iff_of_body hbody).1 hread
    exact ⟨htext, (mark_unique hcolon hmark').2.symm⟩
  · rintro ⟨htext, rfl⟩
    exact ⟨_, ⟨_, hs, _, hquote, (reads_readString_iff_of_body hbody).2 ⟨htext, rfl⟩⟩, hcolon⟩

theorem partLaw_keyedValue {take : String → σ → σ → Bytes → Bytes → Prop}
    {effect : String → Node → σ → σ → Prop}
    (htake : ∀ {key n t}, Node.Written n t → ∀ {before}, Blanks before → ∀ {rest}, Ends rest →
      ∀ {st st' u}, take key st st' (toBytes before ++ (toBytes t ++ rest)) u ↔
        effect key n st st' ∧ u = rest) :
    PartLaw .object (KeyedValue take) (MemberWritten Node.Written)
      (fun m st st' => ∃ key : String, TextWritten key.toList m.1 ∧ effect key m.2 st st') where
  starts h := starts_of_memberWritten h .object
  not_closer := by
    rintro first st st' s u rest ⟨key, v, ⟨w, ⟨x, hsep, y, hquote, -⟩, -⟩, -⟩ hmark
    cases first with
    | true =>
      obtain rfl := separator_true_iff.1 hsep |>.2
      exact absurd (mark_unique hquote hmark).1 (by decide)
    | false => exact absurd (mark_unique (separator_false_iff.1 hsep) hmark).1 (by decide)
  part_iff := by
    rintro _ _ ⟨hbody, hbehind, hafter, hn⟩ before hbefore rest hrest first s hs st st' u
    simp only [toBytes_append, toBytes_cons, encode_quote, encode_colon, List.append_assoc,
      List.cons_append, List.nil_append] at hs
    simp only [KeyedValue, Comp, key_iff_of_body hbody hbefore hbehind hs]
    constructor
    · rintro ⟨key, _, ⟨htext, rfl⟩, htaken⟩
      obtain ⟨heffect, hu⟩ := (htake hn hafter hrest).1 htaken
      exact ⟨⟨key, htext, heffect⟩, hu⟩
    · rintro ⟨⟨key, htext, heffect⟩, hu⟩
      exact ⟨key, _, ⟨htext, rfl⟩, (htake hn hafter hrest).2 ⟨heffect, hu⟩⟩

end Brackets

end CommitGate.Json
