import CommitGate.Proofs.Json.Extent

/-!
# Keys that are repeated

A reader of records goes through the members of an object and remembers which fields it has read. A
field that is read stays read (`Shape.Marks`), whatever stands behind it, so a second member with its
key is found to be one too many (`not_fields_of_repeats`). The two members may stand anywhere, with
anything that can be skipped around them (`Passes`), and their keys may be spelled in any way.
-/

namespace CommitGate.Json

open Relation (Comp)
open Text (toBytes toBytes_append toBytes_cons)

/-! ### There is one way to skip -/

section Unique

variable {p : UInt8 → Prop} {frame : Frame} {first : Bool} {s u v : Bytes}

theorem skipsTo_unique (h : SkipsTo p s u) (h' : SkipsTo p s v) : u = v := by
  obtain ⟨b, t, hs, -, rfl⟩ := h
  exact ((skipsTo_iff_of_cons hs).1 h').2

theorem enters_unique (h : Enters frame s u) (h' : Enters frame s v) : u = v := by
  cases frame with
  | list => exact Eq.trans (Eq.symm h) h'
  | object => exact (reads_unique (reads_skipKey_iff.2 h) (reads_skipKey_iff.2 h')).2

theorem skipped_unique (h : Skipped [] s u) (h' : Skipped [] s v) : u = v :=
  (reads_unique (reads_skipValue_iff.2 h) (reads_skipValue_iff.2 h')).2

theorem part_unique (h : Part frame first s u) (h' : Part frame first s v) : u = v := by
  obtain ⟨w, separator, x, blanks, y, enters, skipped⟩ := h
  obtain ⟨w', separator', x', blanks', y', enters', skipped'⟩ := h'
  obtain rfl := separator_unique separator separator'
  obtain rfl := skipsTo_unique blanks blanks'
  obtain rfl := enters_unique enters enters'
  exact skipped_unique skipped skipped'

/-- Where a part starts, the bracket does not end. -/
theorem not_mark_of_start (h : Comp (Separator first) (SkipsTo (· ≠ frame.closer)) s u) :
    ¬ Mark frame.closer s v := by
  obtain ⟨w, separator, blanks⟩ := h
  intro end_
  cases first with
  | true =>
    obtain rfl := (separator_true_iff.1 separator).2
    exact ((skipsTo_iff_of_cons end_).1 blanks).1 rfl
  | false =>
    have hcomma := (mark_unique (separator_false_iff.1 separator) end_).1
    cases frame <;> exact absurd hcomma (by decide)

end Unique

/-! ### Places behind parts -/

/-- **A place behind some of the parts of a bracket**, from a place on: whether it is in front of all
parts, and what is left there. -/
inductive Passes (frame : Frame) : Bool → Bytes → Bool → Bytes → Prop
  | here (first : Bool) (s : Bytes) : Passes frame first s first s
  | part {first last : Bool} {s u v : Bytes} (this : Part frame first s u)
    (others : Passes frame false u last v) : Passes frame first s last v

section Runs

variable {σ : Type} {frame : Frame} {first last : Bool} {st st'' : σ} {s u rest : Bytes}

/-- **A run comes to every place behind parts**, with all that its parts keep. -/
theorem exists_run_of_passes {part : Bool → σ → σ → Bytes → Bytes → Prop} {P : σ → Prop}
    (hpart : ∀ {first st st' s u}, part first st st' s u → Part frame first s u)
    (hkeeps : ∀ {first st st' s u}, part first st st' s u → P st → P st')
    (h : Passes frame first s last u) (hrun : Run frame part first st st'' s rest) (hst : P st) :
    ∃ st', P st' ∧ Run frame part last st' st'' u rest := by
  induction h generalizing st with
  | here => exact ⟨st, hst, hrun⟩
  | part this _ ih =>
    cases hrun with
    | close end_ =>
      obtain ⟨w, separator, x, blanks, -⟩ := this
      exact absurd end_ (not_mark_of_start ⟨w, separator, blanks⟩)
    | next this' others =>
      obtain rfl := part_unique this (hpart this')
      exact ih others (hkeeps this' hst)

/-- Where a key starts, the run takes a member with that key. -/
theorem exists_member_of_start {take : String → σ → σ → Bytes → Bytes → Prop} {key : String}
    (h : Comp (Separator first) (Comp (Mark 0x22) (Reads readString key)) s u)
    (hrun : Run .object (KeyedValue take) first st st'' s rest) :
    ∃ v w st', Mark 0x3A u v ∧ take key st st' v w ∧
      Run .object (KeyedValue take) false st' st'' w rest := by
  obtain ⟨x, separator, y, quote, hkey⟩ := h
  cases hrun with
  | close end_ =>
    have hstart : Comp (Separator first) (SkipsTo (· ≠ Frame.closer .object)) s (0x22 :: y) :=
      ⟨x, separator, skipsTo_of_mark quote (by decide)⟩
    exact absurd end_ (not_mark_of_start hstart)
  | next this others =>
    obtain ⟨key', v, ⟨z, ⟨x', separator', y', quote', hkey'⟩, colon⟩, this⟩ := this
    obtain rfl := separator_unique separator separator'
    obtain ⟨-, rfl⟩ := mark_unique quote quote'
    obtain ⟨rfl, rfl⟩ := reads_unique hkey hkey'
    exact ⟨v, _, _, colon, this, others⟩

/-- Where an element starts, the run takes one there. -/
theorem exists_element_of_start {take : σ → σ → Bytes → Bytes → Prop}
    (h : Comp (Separator first) (SkipsTo (· ≠ 0x5D)) s u)
    (hrun : Run .list (Element take) first st st'' s rest) : ∃ v st', take st st' u v := by
  cases hrun with
  | close end_ => exact absurd end_ (not_mark_of_start h)
  | next this others =>
    obtain ⟨v, ⟨x', separator', blanks'⟩, this⟩ := this
    obtain ⟨x, separator, blanks⟩ := h
    obtain rfl := separator_unique separator separator'
    obtain rfl := skipsTo_unique blanks blanks'
    exact ⟨_, _, this⟩

end Runs

/-! ### Repeated keys -/

/-- **The members behind an opening brace repeat a key.** What stands behind the second one is not
looked at. -/
inductive Repeats (key : String) : Bytes → Prop
  | intro {first : Bool} {s u v w rest : Bytes} (before : Passes .object true s first u)
    (once : Comp (Key first key) (Skipped []) u v) (between : Passes .object false v false w)
    (again : Comp (Separator false) (Comp (Mark 0x22) (Reads readString key)) w rest) :
    Repeats key s

section Records

variable {σ α : Type} {shape : Shape σ α} {key : String} {field : Field σ} {first last : Bool}
  {st st'' : σ} {a : α} {s u v rest : Bytes}

/-- A record that starts with a brace is read by its members. -/
theorem fields_of_brace (brace : Mark 0x7B s u) (h : Reads (Decoder.record shape).read a s rest) :
    Fields shape true shape.start a u rest := by
  rcases Decoder.reads_record_iff.1 h with ⟨v, bracket, -⟩ | ⟨v, brace', hfields⟩
  · exact absurd (mark_unique brace bracket).1 (by decide)
  · obtain ⟨-, rfl⟩ := mark_unique brace brace'
    exact hfields

/-- **A member that is come to is read as its field**, which has not been read so far. -/
theorem exists_reads_of_passes (hskips : ∀ field ∈ shape.fields, field.content.Skips)
    (hkey : shape.field? key = some field) (before : Passes .object first s last u)
    (this : Key last key u v)
    (hrun : Run .object (KeyedValue (Member shape)) first st st'' s rest) :
    ∃ st' set w, field.isRead st' = false ∧ Reads field.content.read set v w ∧
      Run .object (KeyedValue (Member shape)) false (set st') st'' w rest := by
  obtain ⟨x, start, colon⟩ := this
  -- of the members in front nothing need be kept
  obtain ⟨st', -, hrun'⟩ := exists_run_of_passes (P := fun _ => True) (part_of_member hskips)
    (fun _ => id) before hrun trivial
  obtain ⟨x', w, _, colon', this, hothers⟩ := exists_member_of_start start hrun'
  obtain ⟨-, rfl⟩ := mark_unique colon colon'
  rw [Member, hkey] at this
  obtain ⟨hunread, set, rfl, hset⟩ := this
  exact ⟨st', set, w, hunread, hset, hothers⟩

/-- **A field that is read stays read**: reading it marks it, and reading another one keeps the
mark. -/
structure Shape.Marks (shape : Shape σ α) : Prop where
  marks : ∀ field ∈ shape.fields, ∀ {set s rest}, Reads field.content.read set s rest →
    ∀ st, field.isRead (set st) = true
  keeps : ∀ field ∈ shape.fields, ∀ {set s rest}, Reads field.content.read set s rest →
    ∀ other ∈ shape.fields, ∀ st, other.isRead st = true → other.isRead (set st) = true

theorem isRead_of_member (hmarks : shape.Marks) (hfield : field ∈ shape.fields)
    (h : Member shape key st st'' s u) (hread : field.isRead st = true) :
    field.isRead st'' = true := by
  unfold Member at h
  split at h
  · next other hother =>
    obtain ⟨-, set, rfl, hset⟩ := h
    exact hmarks.keeps other (List.mem_of_find?_eq_some hother) hset field hfield st hread
  · rwa [h.1]

/-- **A record that repeats a key is not read**, wherever the two members stand. -/
theorem not_fields_of_repeats (hskips : ∀ field ∈ shape.fields, field.content.Skips)
    (hmarks : shape.Marks) (hkey : shape.field? key = some field) (h : Repeats key s) :
    ¬ Fields shape true st a s rest := by
  intro hfields
  obtain ⟨before, ⟨x, this, once⟩, between, again⟩ := h
  have hfield := List.mem_of_find?_eq_some hkey
  obtain ⟨_, hrun, -⟩ := fields_iff_run.1 hfields
  obtain ⟨st₁, set, w, -, hset, hrun₁⟩ := exists_reads_of_passes hskips hkey before this hrun
  obtain rfl := skipped_unique once (hskips field hfield _ _ _ hset)
  -- from there on the field is read
  have hstays : ∀ {first st st' s u}, KeyedValue (Member shape) first st st' s u →
      field.isRead st = true → field.isRead st' = true := by
    rintro first st st' s u ⟨_, _, _, this⟩
    exact isRead_of_member hmarks hfield this
  obtain ⟨st₂, hread, hrun₂⟩ := exists_run_of_passes (P := fun st => field.isRead st = true)
    (part_of_member hskips) hstays between hrun₁ (hmarks.marks field hfield hset st₁)
  obtain ⟨_, _, _, -, this', -⟩ := exists_member_of_start again hrun₂
  rw [Member, hkey] at this'
  rw [this'.1] at hread
  cases hread

end Records

/-! ### Repeated keys, as they are written -/

section Rows

variable {τ : Type} {written : τ → List Char → Prop} {frame : Frame} {x y : τ} {xs ys : List τ}
  {first : Bool} {t : List Char} {s w rest : Bytes}

/-- What is left of a row from a part on, with what separates that part from those before it. -/
def Left (written : τ → List Char → Prop) (first : Bool) (x : τ) (xs : List τ) (s w : Bytes) : Prop :=
  ∃ before this behind, Separator first s (toBytes before ++ (toBytes this ++ (toBytes behind ++ w))) ∧
    Blanks before ∧ written x this ∧ Behind written xs behind

theorem left_of_row (h : Row written (x :: xs) t) (w : Bytes) :
    Left written true x xs (toBytes t ++ w) w := by
  obtain ⟨before, this, behind, rfl, hbefore, hx, hbehind⟩ := row_cons_iff.1 h
  exact ⟨before, this, behind, by simp [Separator], hbefore, hx, hbehind⟩

theorem left_of_behind (h : Behind written (x :: xs) t) (w : Bytes) :
    Left written false x xs (toBytes t ++ w) w := by
  obtain ⟨blanks, u, rfl, hblanks, hrow⟩ := h
  obtain ⟨before, this, behind, rfl, hbefore, hx, hbehind⟩ := row_cons_iff.1 hrow
  refine ⟨before, this, behind, ?_, hbefore, hx, hbehind⟩
  have hcomma := mark_append (b := 0x2C) rfl hblanks
    (toBytes before ++ (toBytes this ++ (toBytes behind ++ w)))
  rw [separator_false_iff]
  simpa [encode_comma] using hcomma

/-- **A part is skipped as it is written**, and starts with a byte that closes nothing. -/
structure PartsSkip (frame : Frame) (written : τ → List Char → Prop) : Prop where
  starts : ∀ {x t}, written x t →
    ∃ b u, toBytes t = b :: u ∧ isBlankByte b = false ∧ b ≠ frame.closer
  skips : ∀ {x t}, written x t → ∀ {w}, Ends w → Comp (Enters frame) (Skipped []) (toBytes t ++ w) w

theorem part_of_left (hparts : PartsSkip frame written)
    (h : Left written first x xs s (frame.closer :: rest)) :
    ∃ behind, Behind written xs behind ∧ Part frame first s (toBytes behind ++ frame.closer :: rest) := by
  obtain ⟨before, t, behind, separator, hbefore, hx, hbehind⟩ := h
  obtain ⟨b, u, ht, hblank, hb⟩ := hparts.starts hx
  have hskips := hparts.skips hx (ends_of_behind hbehind frame rest)
  have hblanks : SkipsTo (· ≠ frame.closer)
      (toBytes before ++ (toBytes t ++ (toBytes behind ++ frame.closer :: rest)))
      (toBytes t ++ (toBytes behind ++ frame.closer :: rest)) := by
    rw [ht, List.cons_append]
    exact skipsTo_of_mark (mark_append hblank hbefore _) hb
  exact ⟨behind, hbehind, _, separator, _, hblanks, hskips⟩

theorem passes_of_behind (hparts : PartsSkip frame written)
    (h : Behind written (xs ++ y :: ys) t) (rest : Bytes) :
    ∃ u, Passes frame false (toBytes t ++ frame.closer :: rest) false u ∧
      Left written false y ys u (frame.closer :: rest) := by
  induction xs generalizing t with
  | nil => exact ⟨_, .here _ _, left_of_behind h _⟩
  | cons x xs ih =>
    obtain ⟨behind, hbehind, hpart⟩ := part_of_left hparts (left_of_behind h _)
    obtain ⟨u, hpasses, hleft⟩ := ih hbehind
    exact ⟨u, .part hpart hpasses, hleft⟩

/-- **Every part of a row is come to** from its start. -/
theorem passes_of_row (hparts : PartsSkip frame written) (h : Row written (xs ++ y :: ys) t)
    (rest : Bytes) :
    ∃ first u, Passes frame true (toBytes t ++ frame.closer :: rest) first u ∧
      Left written first y ys u (frame.closer :: rest) := by
  cases xs with
  | nil => exact ⟨true, _, .here _ _, left_of_row h _⟩
  | cons x xs =>
    obtain ⟨behind, hbehind, hpart⟩ := part_of_left hparts (left_of_row h _)
    obtain ⟨u, hpasses, hleft⟩ := passes_of_behind hparts hbehind rest
    exact ⟨false, u, .part hpart hpasses, hleft⟩

end Rows

theorem partsSkip_element : PartsSkip .list Node.Written where
  starts h := starts_of_written h .list
  skips h w hw := ⟨_, rfl, skipped_of_written h blanks_nil hw (settlesAfter_nil w)⟩

theorem partsSkip_member : PartsSkip .object (MemberWritten Node.Written) where
  starts h := starts_of_memberWritten h .object
  skips := by
    rintro _ _ ⟨hkey, hbefore, hbehind, hn⟩ w hw
    have hquote := mark_append (b := 0x22) rfl blanks_nil
    have hcolon := mark_append (b := 0x3A) rfl hbefore
    refine ⟨_, ⟨_, ?_, _, skippedString_of_body hkey _, hcolon _⟩,
      skipped_of_written hn hbehind hw (settlesAfter_nil w)⟩
    simpa [encode_quote, encode_colon] using hquote _

section Members

variable {members : List (List Char × Node)} {m : List Char × Node} {key : String} {first : Bool}
  {t : List Char} {s rest : Bytes}

/-- A member stands behind its key, which may be spelled in any way. -/
theorem key_of_left (h : Left (MemberWritten Node.Written) first m members s (0x7D :: rest))
    (hkey : TextWritten key.toList m.1) :
    ∃ before t behind,
      Key first key s (toBytes before ++ (toBytes t ++ (toBytes behind ++ 0x7D :: rest))) ∧
      Blanks before ∧ m.2.Written t ∧ Behind (MemberWritten Node.Written) members behind := by
  obtain ⟨before, _, behind, separator, hbefore, ⟨hbody, hcolon, hafter, hn⟩, hbehind⟩ := h
  simp only [toBytes_append, toBytes_cons, encode_quote, encode_colon, List.append_assoc,
    List.cons_append, List.nil_append] at separator
  exact ⟨_, _, behind, (key_iff_of_body hbody hbefore hcolon separator).2 ⟨hkey, rfl⟩, hafter, hn,
    hbehind⟩

/-- **Two members have the key**, however it is spelled. -/
def HasTwice (key : String) (members : List (List Char × Node)) : Prop :=
  ∃ front m between m' behind, members = front ++ m :: (between ++ m' :: behind) ∧
    TextWritten key.toList m.1 ∧ TextWritten key.toList m'.1

/-- **An object that has a key twice repeats it**, whatever stands behind its closing brace. -/
theorem repeats_of_hasTwice (h : HasTwice key members)
    (hrow : Row (MemberWritten Node.Written) members t) (rest : Bytes) :
    Repeats key (toBytes t ++ 0x7D :: rest) := by
  obtain ⟨front, m, between, m', behind, rfl, hm, hm'⟩ := h
  obtain ⟨first, u, hfront, hleft⟩ := passes_of_row partsSkip_member hrow rest
  obtain ⟨blanks, t, behind', hkey, hblanks, hn, hbehind⟩ := key_of_left hleft hm
  have hskipped := skipped_of_written hn hblanks (ends_of_behind hbehind .object rest)
    (settlesAfter_nil _)
  obtain ⟨v, hbetween, hleft'⟩ := passes_of_behind partsSkip_member hbehind rest
  obtain ⟨_, _, _, ⟨w, again, -⟩, -⟩ := key_of_left hleft' hm'
  exact .intro hfront ⟨_, hkey, hskipped⟩ hbetween again

end Members

end CommitGate.Json
