import CommitGate.Json.Decoder
import CommitGate.Proofs.Json.Skip

/-!
# What the readers of records take

A record is taken as an object, whose members are a chain of steps (`Fields`), or as a list of its
fields in their order (`Positions`). Both of them show where they end if the contents of all fields
do.
-/

namespace CommitGate.Json

open Relation (Comp)

/-! ### Keys -/

/-- In front of its closing brace, an object has no next key. -/
theorem nextKey_of_mark (first : Bool) {s rest : Bytes} (h : Mark 0x7D s rest) :
    nextKey first s = .ok none := by
  unfold nextKey
  dsimp only
  split
  · next h' => exact absurd h (not_mark_of_nil h')
  · next b t h' =>
    rw [mark_iff_of_cons h'] at h
    rw [if_pos h.1]

/-- The step in front of the colon of the next member. -/
theorem nextKey_eq_some_iff {first : Bool} {key : String} {s rest : Bytes} :
    (nextKey first s).map (Option.map Taken.pair) = .ok (some (key, rest)) ↔
      Comp (Separator first) (Comp (Mark 0x22) (Reads readString key)) s rest := by
  unfold nextKey
  dsimp only
  rcases first with _ | _
  · split
    · next h =>
      simp [not_comp_of_not fun u hu => not_mark_of_nil h (separator_false_iff.1 hu), Except.map]
    next b t h =>
    rw [comp_iff_of_iff fun u => separator_false_iff.trans (mark_iff_of_cons h)]
    split
    · next hb => simp [hb, Except.map]
    rw [if_neg Bool.false_ne_true]
    split
    · next hcomma =>
      split
      · next h' => simp [not_comp_of_not fun u => not_mark_of_nil h', Except.map]
      next c u h' =>
      rw [comp_iff_of_iff fun u => mark_iff_of_cons h', Reads]
      split
      · rcases readString u with f | r <;>
          simp_all [Except.map, Taken.pair, Taken.lift]
      · next hc => split <;> simp [hc, Except.map]
    · next hcomma => simp [hcomma, Except.map]
  · rw [comp_iff_of_iff fun u => separator_true_iff, true_and]
    split
    · next h => simp [not_comp_of_not fun u => not_mark_of_nil h, Except.map]
    next b t h =>
    rw [comp_iff_of_iff fun u => mark_iff_of_cons h, Reads]
    split
    · next hb => simp [hb, Except.map]
    rw [if_pos rfl]
    split
    · rcases readString t with f | r <;> simp_all [Except.map, Taken.pair, Taken.lift]
    · next hc => simp [hc, Except.map]

/-- In front of its next key, an object has that one. -/
theorem exists_nextKey_of_start {first : Bool} {key : String} {s u : Bytes}
    (h : Comp (Separator first) (Comp (Mark 0x22) (Reads readString key)) s u) :
    ∃ next : Taken String s, nextKey first s = .ok (some next) ∧ next.value = key ∧
      next.rest = u := by
  have hmap := nextKey_eq_some_iff.2 h
  rcases hnext : nextKey first s with f | _ | next
  · simp [hnext, Except.map] at hmap
  · simp [hnext, Except.map] at hmap
  · simp only [hnext, Except.map, Option.map_some, Except.ok.injEq, Option.some.injEq, Taken.pair,
      Prod.mk.injEq] at hmap
    exact ⟨next, rfl, hmap⟩

theorem start_of_nextKey {first : Bool} {s : Bytes} {key : Taken String s}
    (h : nextKey first s = .ok (some key)) :
    Comp (Separator first) (Comp (Mark 0x22) (Reads readString key.value)) s key.rest :=
  nextKey_eq_some_iff.1 (by simp [h, Except.map, Taken.pair])

theorem reads_closeObject_iff {s rest : Bytes} :
    Reads closeObject () s rest ↔ Mark 0x7D s rest := by
  unfold Reads closeObject
  split
  · next h => simp [not_mark_of_nil h, Except.map]
  · next b t h =>
    rw [mark_iff_of_cons h]
    split
    · next hb => simp [hb, Except.map, Taken.pair]
    · next hb => simp [hb, Except.map]

/-! ### Records -/

section Records

variable {σ α : Type} {shape : Shape σ α}

/-- The next key and its colon. -/
def Key (first : Bool) (key : String) : Bytes → Bytes → Prop :=
  Comp (Comp (Separator first) (Comp (Mark 0x22) (Reads readString key))) (Mark 0x3A)

theorem closes_key (first : Bool) (key : String) : Closes (Key first key) :=
  ((peeks_separator _).comp_closes ((closes_mark _).comp_closes
    (closes_readString _))).comp_closes (closes_mark _)

/-- A member behind its colon, with what it makes of what has been gathered: the content of a field
that has not been read, or anything that is skipped. -/
def Member (shape : Shape σ α) (key : String) (st st' : σ) (s rest : Bytes) : Prop :=
  match shape.field? key with
  | some field =>
    field.isRead st = false ∧ ∃ set, set st = st' ∧ Reads field.content.read set s rest
  | none => st' = st ∧ Skipped [] s rest

/-- **The members of a record**, from what has been gathered of it, and the closing brace. -/
inductive Fields (shape : Shape σ α) : Bool → σ → α → Bytes → Bytes → Prop
  | close {first : Bool} {st : σ} {a : α} {s rest : Bytes} (finish : shape.finish st = .ok a)
    (end_ : Mark 0x7D s rest) : Fields shape first st a s rest
  | next {first : Bool} {st st' : σ} {a : α} {key : String} {s u v rest : Bytes}
    (start : Key first key s u) (this : Member shape key st st' u v)
    (others : Fields shape false st' a v rest) : Fields shape first st a s rest

/-- **The fields of a record that stands as a list**, from what has been gathered of it, and the
closing bracket. -/
inductive Positions (shape : Shape σ α) : Bool → List (Field σ) → σ → α → Bytes → Bytes → Prop
  /-- There is no further field to read, or the others are left out. -/
  | close {first : Bool} {fields : List (Field σ)} {st : σ} {a : α} {s rest : Bytes}
    (enough : fields = [] ∨ shape.mayStopEarly = true) (finish : shape.finish st = .ok a)
    (end_ : Mark 0x5D s rest) : Positions shape first fields st a s rest
  | next {first : Bool} {field : Field σ} {fields : List (Field σ)} {st : σ} {a : α}
    {set : σ → σ} {s u v rest : Bytes} (start : Comp (Separator first) (SkipsTo (· ≠ 0x5D)) s u)
    (this : Reads field.content.read set u v)
    (others : Positions shape false fields (set st) a v rest) :
    Positions shape first (field :: fields) st a s rest

/-- The content shows where it ends. -/
def Decoder.Closes (d : Decoder α) : Prop := ∀ a, Json.Closes (Reads d.read a)

theorem peeks_member (hfields : ∀ field ∈ shape.fields, field.content.Closes) (key : String)
    (st st' : σ) : Peeks (Member shape key st st') := by
  unfold Member
  rcases hfield : shape.field? key with _ | field
  · rintro s rest ⟨hst, h⟩
    exact (peeks_skipped _ _ _ h).mono fun _ _ h => ⟨hst, h⟩
  · rintro s rest ⟨hfresh, set, hset, h⟩
    have hclose := hfields field (List.mem_of_find?_eq_some hfield) set _ _ h
    exact hclose.peeksAt.mono fun _ _ h => ⟨hfresh, set, hset, h⟩

/-- The members close even where one of them only peeks: the closing brace stands behind it. -/
theorem closes_fields (hfields : ∀ field ∈ shape.fields, field.content.Closes) (first : Bool)
    (st : σ) (a : α) : Closes (Fields shape first st a) := by
  intro s rest h
  induction h with
  | close finish end_ => exact (closes_mark _ _ _ end_).mono fun _ _ => .close finish
  | next start this _ ih =>
    have hstart := (closes_key _ _ _ _ start).peeksAt
    have hthis := peeks_member hfields _ _ _ _ _ this
    refine (hstart.comp_closesAt (hthis.comp_closesAt ih)).mono ?_
    rintro s rest ⟨u, hu, v, hv, hrest⟩
    exact .next hu hv hrest

theorem closes_positions (first : Bool) {fields : List (Field σ)}
    (hfields : ∀ field ∈ fields, field.content.Closes) (st : σ) (a : α) :
    Closes (Positions shape first fields st a) := by
  intro s rest h
  induction h with
  | close enough finish end_ =>
    exact (closes_mark _ _ _ end_).mono fun _ _ => .close enough finish
  | next start this _ ih =>
    rw [List.forall_mem_cons] at hfields
    have hstart := (peeks_separator _).comp (peeks_skipsTo _) _ _ start
    have hthis := (hfields.1 _ _ _ this).peeksAt
    refine (hstart.comp_closesAt (hthis.comp_closesAt (ih hfields.2))).mono ?_
    rintro s rest ⟨u, hu, v, hv, hrest⟩
    exact .next hu hv hrest

/-! ### Reading records -/

theorem reads_close_iff {st : σ} {a : α} {s rest : Bytes} :
    Reads (shape.close st) a s rest ↔ shape.finish st = .ok a ∧ Mark 0x7D s rest := by
  rw [← reads_closeObject_iff, Reads, Shape.close]
  rcases hr : closeObject s with f | r
  · simp [not_reads_of_error hr, Except.map]
  rw [reads_iff_of_ok hr]
  rcases shape.finish st with c | a' <;> simp [Except.map, Taken.pair, Taken.map]

theorem reads_closePositions_iff {st : σ} {a : α} {s rest : Bytes} :
    Reads (shape.closePositions st) a s rest ↔ shape.finish st = .ok a ∧ Mark 0x5D s rest := by
  rw [← reads_closeList_iff, Reads, Shape.closePositions]
  rcases hr : closeList s with f | r
  · simp [not_reads_of_error hr, Except.map]
  rw [reads_iff_of_ok hr]
  rcases shape.finish st with c | a' <;> simp [Except.map, Taken.pair, Taken.map]

theorem not_fields_of_error {first : Bool} {st : σ} {a : α} {s rest : Bytes} {f : Fault}
    (h : nextKey first s = .error f) : ¬ Fields shape first st a s rest := by
  rintro (⟨-, end_⟩ | ⟨⟨u, start, -⟩, -, -⟩)
  · cases h.symm.trans (nextKey_of_mark first end_)
  · obtain ⟨_, hstart, -⟩ := exists_nextKey_of_start start
    cases h.symm.trans hstart

theorem fields_iff_of_none {first : Bool} {st : σ} {a : α} {s rest : Bytes}
    (h : nextKey first s = .ok none) :
    Fields shape first st a s rest ↔ shape.finish st = .ok a ∧ Mark 0x7D s rest := by
  constructor
  · rintro (⟨finish, end_⟩ | ⟨⟨u, start, -⟩, -, -⟩)
    · exact ⟨finish, end_⟩
    · obtain ⟨_, hstart, -⟩ := exists_nextKey_of_start start
      cases h.symm.trans hstart
  · rintro ⟨finish, end_⟩
    exact .close finish end_

theorem fields_iff_of_some {first : Bool} {st : σ} {a : α} {s rest : Bytes} {key : Taken String s}
    (h : nextKey first s = .ok (some key)) :
    Fields shape first st a s rest ↔
      ∃ u, Mark 0x3A key.rest u ∧ ∃ st' v, Member shape key.value st st' u v ∧
        Fields shape false st' a v rest := by
  constructor
  · rintro (⟨-, end_⟩ | ⟨⟨u, start, colon⟩, this, others⟩)
    · cases h.symm.trans (nextKey_of_mark first end_)
    · obtain ⟨_, hstart, rfl, rfl⟩ := exists_nextKey_of_start start
      cases h.symm.trans hstart
      exact ⟨_, colon, _, _, this, others⟩
  · rintro ⟨u, colon, st', v, this, others⟩
    exact .next ⟨_, start_of_nextKey h, colon⟩ this others

/-- The loop takes the members from some of them on. -/
theorem readFields_go_iff {first : Bool} {st : σ} {a : α} {s t rest : Bytes}
    {h : t.length ≤ s.length} :
    (Shape.readFields.go shape s first st t h).map Taken.pair = .ok (a, rest) ↔
      Fields shape first st a t rest := by
  fun_induction Shape.readFields.go shape s first st t h with
  | case1 first st t h f hnext => simp [not_fields_of_error hnext, Except.map]
  | case2 first st t h hnext f hclose =>
    rw [fields_iff_of_none hnext, ← reads_close_iff]
    simp [not_reads_of_error hclose, Except.map]
  | case3 first st t h hnext r hclose =>
    rw [fields_iff_of_none hnext, ← reads_close_iff, reads_iff_of_ok hclose]
    simp [Except.map, Taken.pair, Taken.lift]
  | case4 first st t h key hnext field hfield hread =>
    simp [fields_iff_of_some hnext, Member, hfield, hread, Except.map]
  | case5 first st t h key hnext field hfield hfresh f hcolon =>
    simp [fields_iff_of_some hnext, ← reads_readColon_iff, not_reads_of_error hcolon, Except.map]
  | case6 first st t h key hnext field hfield hfresh colon hcolon f hitem =>
    simp only [fields_iff_of_some hnext, ← reads_readColon_iff, reads_iff_of_ok hcolon, true_and,
      exists_eq_left', Member, hfield]
    simp [not_reads_of_error hitem, Except.map]
  | case7 first st t h key hnext field hfield hfresh colon hcolon r hitem hlt ih =>
    rw [Bool.not_eq_true] at hfresh
    rw [ih]
    simp only [fields_iff_of_some hnext, ← reads_readColon_iff, reads_iff_of_ok hcolon, true_and,
      exists_eq_left', Member, hfield, reads_iff_of_ok hitem, hfresh]
    constructor
    · intro others
      exact ⟨_, _, ⟨_, rfl, rfl, rfl⟩, others⟩
    · rintro ⟨_, _, ⟨_, rfl, rfl, rfl⟩, others⟩
      exact others
  | case8 first st t h key hnext hfield f hcolon =>
    simp [fields_iff_of_some hnext, ← reads_readColon_iff, not_reads_of_error hcolon, Except.map]
  | case9 first st t h key hnext hfield colon hcolon f hskip =>
    simp only [fields_iff_of_some hnext, ← reads_readColon_iff, reads_iff_of_ok hcolon, true_and,
      exists_eq_left', Member, hfield, ← reads_skipValue_iff]
    simp [not_reads_of_error hskip, Except.map]
  | case10 first st t h key hnext hfield colon hcolon r hskip hlt ih =>
    rw [ih]
    simp only [fields_iff_of_some hnext, ← reads_readColon_iff, reads_iff_of_ok hcolon, true_and,
      exists_eq_left', Member, hfield, ← reads_skipValue_iff, reads_iff_of_ok hskip]
    constructor
    · intro others
      exact ⟨_, _, ⟨rfl, rfl⟩, others⟩
    · rintro ⟨_, _, ⟨rfl, rfl⟩, others⟩
      exact others

theorem reads_readFields_iff {a : α} {s rest : Bytes} :
    Reads shape.readFields a s rest ↔ Fields shape true shape.start a s rest := by
  rw [Reads, Shape.readFields, readFields_go_iff]

theorem not_positions_of_error {first : Bool} {field : Field σ} {fields : List (Field σ)} {st : σ}
    {a : α} {s rest : Bytes} {f : Fault} (h : nextItem first s = .error f) :
    ¬ Positions shape first (field :: fields) st a s rest := by
  rintro (⟨-, -, end_⟩ | ⟨start, -, -⟩)
  · cases h.symm.trans (nextItem_of_mark first end_)
  · obtain ⟨_, hstart, -⟩ := exists_nextItem_of_start start
    cases h.symm.trans hstart

theorem positions_iff_of_none {first : Bool} {field : Field σ} {fields : List (Field σ)} {st : σ}
    {a : α} {s rest : Bytes} (h : nextItem first s = .ok none) :
    Positions shape first (field :: fields) st a s rest ↔
      shape.mayStopEarly = true ∧ shape.finish st = .ok a ∧ Mark 0x5D s rest := by
  constructor
  · rintro (⟨enough, finish, end_⟩ | ⟨start, -, -⟩)
    · exact ⟨enough.resolve_left (List.cons_ne_nil _ _), finish, end_⟩
    · obtain ⟨_, hstart, -⟩ := exists_nextItem_of_start start
      cases h.symm.trans hstart
  · rintro ⟨enough, finish, end_⟩
    exact .close (.inr enough) finish end_

theorem positions_iff_of_some {first : Bool} {field : Field σ} {fields : List (Field σ)} {st : σ}
    {a : α} {s rest : Bytes} {u : Suffix s} (h : nextItem first s = .ok (some u)) :
    Positions shape first (field :: fields) st a s rest ↔
      ∃ set v, Reads field.content.read set u.1 v ∧
        Positions shape false fields (set st) a v rest := by
  constructor
  · rintro (⟨-, -, end_⟩ | ⟨start, this, others⟩)
    · cases h.symm.trans (nextItem_of_mark first end_)
    · obtain ⟨_, hstart, rfl⟩ := exists_nextItem_of_start start
      cases h.symm.trans hstart
      exact ⟨_, _, this, others⟩
  · rintro ⟨set, v, this, others⟩
    exact .next (start_of_nextItem h) this others

theorem reads_readPositions_iff {i : Nat} {fields : List (Field σ)} {st : σ} {a : α}
    {s rest : Bytes} :
    Reads (shape.readPositions i fields st) a s rest ↔
      Positions shape (i == 0) fields st a s rest := by
  induction fields generalizing i st s with
  | nil =>
    rw [Shape.readPositions, reads_closePositions_iff]
    constructor
    · rintro ⟨finish, end_⟩
      exact .close (.inl rfl) finish end_
    · rintro ⟨-, finish, end_⟩
      exact ⟨finish, end_⟩
  | cons field fields ih =>
    rw [Reads, Shape.readPositions]
    dsimp only
    rcases hnext : nextItem (i == 0) s with f | _ | u
    · simp [not_positions_of_error hnext, Except.map]
    · rw [positions_iff_of_none hnext, ← reads_closePositions_iff]
      dsimp only
      split
      · next hstop => simp [hstop, Reads]
      · next hstop => rcases closeList s with f | r <;> simp [hstop, Except.map]
    · rw [positions_iff_of_some hnext]
      dsimp only
      rcases hitem : field.content.read u.1 with f | r
      · simp [not_reads_of_error hitem, Except.map]
      simp only [reads_iff_of_ok hitem]
      trans Reads (shape.readPositions (i + 1) fields (r.value st)) a r.rest rest
      · unfold Reads
        rcases shape.readPositions (i + 1) fields (r.value st) r.rest with f | r' <;>
          simp [Except.map, Taken.pair, Taken.lift]
      · rw [ih, show (i + 1 == 0) = false from rfl]
        constructor
        · intro others
          exact ⟨_, _, ⟨rfl, rfl⟩, others⟩
        · rintro ⟨_, _, ⟨rfl, rfl⟩, others⟩
          exact others

end Records

end CommitGate.Json
