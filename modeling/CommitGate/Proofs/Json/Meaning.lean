import CommitGate.Proofs.Json.Decoder
import CommitGate.Proofs.Json.View
import CommitGate.Proofs.Json.Written.Skipped

/-!
# What decoders make of values

A decoder has two sides: it reads the front of a text, and it takes a value that has been read. What
both of them make of what they are given is said once (`Meaning`), of anything that can be looked at
as JSON (`View`): a value, or the tree that a text is taken apart into. The two sides agree with it
(`Decoder.Means`) for each of the decoders that records are put together from.
-/

namespace CommitGate.Json

open Relation (Comp)
open Text (toBytes toBytes_append toBytes_cons toBytes_nil)

/-- What is written is read as `R` says, and up to its end. -/
def ReadsAs {α : Type} (read : Reader α) (R : Node → α → Prop) : Prop :=
  ∀ {n : Node} {t}, n.Written t → ∀ {before}, Blanks before → ∀ {rest}, Ends rest →
    ∀ {a rest'}, Reads read a (toBytes before ++ (toBytes t ++ rest)) rest' ↔
      R n a ∧ rest' = rest

/-- **Both sides of the decoder make of their input what `M` says.** -/
structure Decoder.Means {α : Type} (d : Decoder α) (M : Meaning α) : Prop where
  reads_iff : ReadsAs d.read (M Node Node.view)
  ofValue_iff : ∀ {v a}, d.ofValue v = .ok a ↔ M Value Value.view v a

/-! ### Strings, `null` and lists -/

section Decoders

variable {α β σ : Type} {d : Decoder α} {M : Meaning α}

theorem Decoder.Means.congr {M' : Meaning α} (h : d.Means M)
    (hiff : ∀ {τ : Type} (V : View τ) x a, M τ V x a ↔ M' τ V x a) : d.Means M' where
  reads_iff := by
    intro n t hn before hbefore rest hrest a rest'
    rw [h.reads_iff hn hbefore hrest, hiff]
  ofValue_iff := by
    intro v a
    rw [h.ofValue_iff, hiff]

theorem means_string : Decoder.string.Means fun _ V x s => V.text x s where
  reads_iff := by
    intro n t hn before hbefore rest hrest text rest'
    rw [Decoder.reads_string_iff, comp_mark_string_iff hn hbefore]
    constructor
    · rintro ⟨body, rfl, hbody, -, hread⟩
      obtain ⟨htext, rfl⟩ := (reads_readString_iff_of_body hbody).1 hread
      exact ⟨⟨body, rfl, htext⟩, rfl⟩
    · rintro ⟨⟨body, rfl, htext⟩, rfl⟩
      have hbody := stringBody_of_textWritten htext
      cases hn
      exact ⟨body, rfl, hbody, rfl, (reads_readString_iff_of_body hbody).2 ⟨htext, rfl⟩⟩
  ofValue_iff := by
    intro v s
    cases v <;> simp [Decoder.string, Value.view, eq_comm]

theorem Decoder.Means.map (h : d.Means M) (f : α → β) :
    (d.map f).Means fun τ V x b => ∃ a, f a = b ∧ M τ V x a where
  reads_iff := by
    intro n t hn before hbefore rest hrest b rest'
    simp only [Decoder.reads_map_iff, h.reads_iff hn hbefore hrest, ← and_assoc, exists_and_right]
  ofValue_iff := by
    intro v b
    simp only [← h.ofValue_iff, Decoder.map]
    rcases d.ofValue v with c | a <;> simp [Except.map]

theorem Decoder.Means.orNull (h : d.Means M) : d.orNull.Means fun τ V x o =>
    (V.isNull x ∧ o = none) ∨ ¬ V.isNull x ∧ ∃ a, o = some a ∧ M τ V x a where
  reads_iff := by
    intro n t hn before hbefore rest hrest o rest'
    have hskip : ∀ u, SkipsTo (· ≠ 0x6E) (toBytes before ++ (toBytes t ++ rest)) u ↔
        n ≠ .null ∧ toBytes t ++ rest = u := by
      intro u
      obtain ⟨b, v, ht, hb⟩ := hn.exists_opens
      have hfront := hn.skipBlanks hbefore rest
      rw [ht, List.cons_append] at hfront ⊢
      rw [skipsTo_iff_of_cons hfront]
      refine and_congr_left' (not_congr ⟨?_, ?_⟩)
      · rintro rfl
        exact opens_null_iff.1 hb
      · rintro rfl
        exact hb
    have hread : ∀ a, Reads d.read a (toBytes t ++ rest) rest' ↔ M Node Node.view n a ∧ rest' = rest :=
      fun a => h.reads_iff hn (List.forall_mem_nil _) hrest
    simp only [Decoder.reads_orNull_iff, comp_mark_null_iff hn hbefore, comp_iff_of_iff hskip, hread]
    constructor
    · rintro (⟨ho, hnull, hrest'⟩ | ⟨a, ho, hnull, ha, hrest'⟩)
      · exact ⟨.inl ⟨hnull, ho⟩, hrest'⟩
      · exact ⟨.inr ⟨hnull, a, ho, ha⟩, hrest'⟩
    · rintro ⟨⟨hnull, ho⟩ | ⟨hnull, a, ho, ha⟩, hrest'⟩
      · exact .inl ⟨ho, hnull, hrest'⟩
      · exact .inr ⟨a, ho, hnull, ha, hrest'⟩
  ofValue_iff := by
    intro v o
    rw [Decoder.orNull, isNull_value_iff]
    simp only [← h.ofValue_iff]
    split
    · simp [eq_comm]
    · next hnull =>
      have hnull : v ≠ .null := hnull
      rcases d.ofValue v with c | a <;> simp [hnull, Except.map, eq_comm]

theorem ofValues_eq_ok_iff {vs : List Value} {l : List α} :
    d.ofValues vs = .ok l ↔ List.Forall₂ (fun v a => d.ofValue v = .ok a) vs l := by
  induction vs generalizing l with
  | nil => simp [Decoder.ofValues, eq_comm]
  | cons v vs ih =>
    rw [Decoder.ofValues, List.forall₂_cons_left_iff]
    simp only [← ih]
    rcases d.ofValue v with c | a
    · simp
    · rcases d.ofValues vs with c | l' <;> simp [Except.map, eq_comm]

/-- A list is taken element by element, with what is still to come kept meanwhile. -/
theorem items_iff_run {item : α → Bytes → Bytes → Prop} {first : Bool} {l : List α}
    {s rest : Bytes} : Items item first l s rest ↔
      Run .list (Element fun l l' s u => ∃ a, l = a :: l' ∧ item a s u) first l [] s rest := by
  constructor
  · intro h
    induction h with
    | close end_ => exact .close end_
    | next start this _ ih => exact .next ⟨_, start, _, rfl, this⟩ ih
  · intro h
    generalize hend : ([] : List α) = left at h
    induction h with
    | close end_ =>
      subst hend
      exact .close end_
    | next this _ ih =>
      obtain ⟨u, start, a, rfl, this⟩ := this
      exact .next start this (ih hend)

theorem leads_nil_iff_forall₂ {τ : Type} {R : τ → α → Prop} {xs : List τ} {l : List α} :
    Leads (fun x l l' => ∃ a, l = a :: l' ∧ R x a) xs l [] ↔ List.Forall₂ R xs l := by
  induction xs generalizing l with
  | nil => simp [leads_nil_iff]
  | cons x xs ih =>
    rw [leads_cons_iff, List.forall₂_cons_left_iff]
    simp only [ih]
    constructor
    · rintro ⟨l', ⟨a, rfl, ha⟩, hl⟩
      exact ⟨a, l', ha, hl, rfl⟩
    · rintro ⟨a, l', ha, hl, rfl⟩
      exact ⟨l', ⟨a, rfl, ha⟩, hl⟩

/-- A row is read as a list just as its parts are read as the elements. -/
theorem items_iff_of_row {read : Reader α} {R : Node → α → Prop} (hread : ReadsAs read R)
    {xs : List Node} {row : List Char} (hrow : Row Node.Written xs row) {l : List α}
    {rest rest' : Bytes} :
    Items (Reads read) true l (toBytes row ++ 0x5D :: rest) rest' ↔
      List.Forall₂ R xs l ∧ rest' = rest := by
  have htake : ∀ {n : Node} {t}, n.Written t → ∀ {rest}, Ends rest → ∀ {l l' : List α} {u},
      (∃ a, l = a :: l' ∧ Reads read a (toBytes t ++ rest) u) ↔
        (∃ a, l = a :: l' ∧ R n a) ∧ u = rest := by
    intro n t hn rest hrest l l' u
    have hthis : ∀ a, Reads read a (toBytes t ++ rest) u ↔ R n a ∧ u = rest := fun a =>
      hread hn (List.forall_mem_nil _) hrest
    simp only [hthis, ← and_assoc, exists_and_right]
  rw [items_iff_run, ← leads_nil_iff_forall₂]
  exact run_iff_of_row (partLaw_element htake) hrow

theorem Decoder.Means.list (h : d.Means M) :
    d.list.Means fun τ V x l => ∃ xs, V.items x xs ∧ List.Forall₂ (M τ V) xs l where
  reads_iff := by
    intro n t hn before hbefore rest hrest l rest'
    have hitems := @items_iff_of_row _ _ _ h.reads_iff
    rw [Decoder.reads_list_iff, comp_mark_list_iff hn hbefore]
    constructor
    · rintro ⟨items, row, rfl, hrow, -, hl⟩
      obtain ⟨hall, hrest'⟩ := (hitems hrow).1 hl
      exact ⟨⟨items, rfl, hall⟩, hrest'⟩
    · rintro ⟨⟨items, rfl, hall⟩, hrest'⟩
      cases hn with
      | @list _ row hrow => exact ⟨items, row, rfl, hrow, rfl, (hitems hrow).2 ⟨hall, hrest'⟩⟩
  ofValue_iff := by
    intro v l
    have hitem : M Value Value.view = fun v a => d.ofValue v = .ok a := by
      funext v a
      exact propext h.ofValue_iff.symm
    rw [hitem]
    cases v <;> simp [Decoder.list, ofValues_eq_ok_iff]

/-! ### Records -/

section Gathering

variable {τ : Type} (shape : Shape σ α) (content : Field σ → τ → (σ → σ) → Prop)

/-- What a member does to what has been gathered: it sets a field that has not been read, or it is
ignored. -/
def Shape.Takes (m : String × τ) (st st' : σ) : Prop :=
  match shape.field? m.1 with
  | some field => field.isRead st = false ∧ ∃ set, set st = st' ∧ content field m.2 set
  | none => st' = st

/-- The record is gathered from members of an object, behind others that have given `st`. -/
def Shape.Gathers (st : σ) (ms : List (String × τ)) (a : α) : Prop :=
  ∃ st', Leads (shape.Takes content) ms st st' ∧ shape.finish st' = .ok a

/-- What an element does to what has been gathered: it sets the next of the fields. -/
def Shape.TakesNext (x : τ) (p p' : List (Field σ) × σ) : Prop :=
  ∃ field ∈ shape.fields, ∃ set, p.1 = field :: p'.1 ∧ p'.2 = set p.2 ∧ content field x set

/-- The record is gathered from elements of a list, behind others that have left over `fields` and
have given `st`. -/
def Shape.GathersNext (fields : List (Field σ)) (st : σ) (xs : List τ) (a : α) : Prop :=
  ∃ left st', Leads (shape.TakesNext content) xs (fields, st) (left, st') ∧
    (left = [] ∨ shape.mayStopEarly = true) ∧ shape.finish st' = .ok a

end Gathering

section Gathering

variable {τ : Type} {shape : Shape σ α} {content : Field σ → τ → (σ → σ) → Prop} {st : σ} {a : α}

theorem gathers_nil_iff : shape.Gathers content st [] a ↔ shape.finish st = .ok a := by
  simp [Shape.Gathers, leads_nil_iff]

theorem gathers_cons_iff {m : String × τ} {ms : List (String × τ)} :
    shape.Gathers content st (m :: ms) a ↔
      ∃ st', shape.Takes content m st st' ∧ shape.Gathers content st' ms a := by
  simp only [Shape.Gathers, leads_cons_iff]
  constructor
  · rintro ⟨st'', ⟨st', hthis, hothers⟩, hfinish⟩
    exact ⟨st', hthis, st'', hothers, hfinish⟩
  · rintro ⟨st', hthis, st'', hothers, hfinish⟩
    exact ⟨st'', ⟨st', hthis, hothers⟩, hfinish⟩

theorem gathersNext_nil_iff {fields : List (Field σ)} :
    shape.GathersNext content fields st [] a ↔
      (fields = [] ∨ shape.mayStopEarly = true) ∧ shape.finish st = .ok a := by
  simp [Shape.GathersNext, leads_nil_iff]

/-- There is no element too many. -/
theorem not_gathersNext_cons {x : τ} {xs : List τ} :
    ¬ shape.GathersNext content [] st (x :: xs) a := by
  simp [Shape.GathersNext, leads_cons_iff, Shape.TakesNext]

theorem gathersNext_cons_iff {field : Field σ} (hfield : field ∈ shape.fields)
    {fields : List (Field σ)} {x : τ} {xs : List τ} :
    shape.GathersNext content (field :: fields) st (x :: xs) a ↔
      ∃ set, content field x set ∧ shape.GathersNext content fields (set st) xs a := by
  simp only [Shape.GathersNext, leads_cons_iff]
  constructor
  · rintro ⟨left, st', ⟨⟨_, _⟩, ⟨_, -, set, hleft, rfl, hset⟩, hleads⟩, hend⟩
    obtain ⟨rfl, rfl⟩ := List.cons.inj hleft
    exact ⟨set, hset, left, st', hleads, hend⟩
  · rintro ⟨set, hset, left, st', hleads, hend⟩
    exact ⟨left, st', ⟨_, ⟨field, hfield, set, rfl, rfl, hset⟩, hleads⟩, hend⟩

end Gathering

variable {shape : Shape σ α}

/-- The members of a record are taken one by one, and then the record is finished. -/
theorem fields_iff_run {first : Bool} {st : σ} {a : α} {s rest : Bytes} :
    Fields shape first st a s rest ↔
      ∃ st', Run .object (KeyedValue (Member shape)) first st st' s rest ∧
        shape.finish st' = .ok a := by
  constructor
  · intro h
    induction h with
    | close finish end_ => exact ⟨_, .close end_, finish⟩
    | next start this _ ih =>
      obtain ⟨st', hrun, hfinish⟩ := ih
      exact ⟨st', .next ⟨_, _, start, this⟩ hrun, hfinish⟩
  · rintro ⟨st', hrun, hfinish⟩
    induction hrun with
    | close end_ => exact .close hfinish end_
    | next this _ ih =>
      obtain ⟨key, u, start, this⟩ := this
      exact .next start this (ih hfinish)

/-- The elements of a record are taken one by one for its fields, and then the record is finished. -/
theorem positions_iff_run {first : Bool} {fields : List (Field σ)} {st : σ} {a : α}
    {s rest : Bytes} (hfields : ∀ field ∈ fields, field ∈ shape.fields) :
    Positions shape first fields st a s rest ↔
      ∃ left st', Run .list (Element fun p p' s u => ∃ field ∈ shape.fields, ∃ set,
          p.1 = field :: p'.1 ∧ p'.2 = set p.2 ∧ Reads field.content.read set s u)
          first (fields, st) (left, st') s rest ∧
        (left = [] ∨ shape.mayStopEarly = true) ∧ shape.finish st' = .ok a := by
  constructor
  · intro h
    induction h with
    | close enough finish end_ => exact ⟨_, _, .close end_, enough, finish⟩
    | next start this _ ih =>
      rw [List.forall_mem_cons] at hfields
      obtain ⟨left, st', hrun, hend⟩ := ih hfields.2
      exact ⟨left, st', .next ⟨_, start, _, hfields.1, _, rfl, rfl, this⟩ hrun, hend⟩
  · rintro ⟨left, st', hrun, henough, hfinish⟩
    generalize hp : (fields, st) = p at hrun
    generalize hq : (left, st') = q at hrun
    induction hrun generalizing fields st with
    | close end_ =>
      obtain ⟨rfl, rfl⟩ := Prod.mk.inj (hp.trans hq.symm)
      exact .close henough hfinish end_
    | @next _ _ p' _ _ _ _ this _ ih =>
      subst hp
      obtain ⟨u, start, field, -, set, hleft, hset, this⟩ := this
      obtain ⟨fields', st''⟩ := p'
      obtain rfl : fields = field :: fields' := hleft
      obtain rfl : st'' = set st := hset
      exact .next start this (ih (List.forall_mem_cons.1 hfields).2 rfl hq)

theorem leads_named_iff (effect : String → Node → σ → σ → Prop) {ms : List (List Char × Node)}
    {st st' : σ} :
    Leads (fun m st st' => ∃ key : String, TextWritten key.toList m.1 ∧ effect key m.2 st st')
        ms st st' ↔
      ∃ named, Named ms named ∧ Leads (fun k : String × Node => effect k.1 k.2) named st st' := by
  induction ms generalizing st with
  | nil =>
    simp only [leads_nil_iff, Named, List.forall₂_nil_left_iff, exists_eq_left]
  | cons m ms ih =>
    simp only [leads_cons_iff, Named, List.forall₂_cons_left_iff]
    constructor
    · rintro ⟨st'', ⟨key, hkey, hthis⟩, hothers⟩
      obtain ⟨named, hnamed, hleads⟩ := ih.1 hothers
      exact ⟨_, ⟨(key, m.2), named, ⟨hkey, rfl⟩, hnamed, rfl⟩, leads_cons_iff.2 ⟨st'', hthis, hleads⟩⟩
    · rintro ⟨_, ⟨k, named, ⟨hkey, hvalue⟩, hnamed, rfl⟩, hleads⟩
      obtain ⟨st'', hthis, hothers⟩ := leads_cons_iff.1 hleads
      rw [← hvalue] at hthis
      exact ⟨st'', ⟨k.1, hkey, hthis⟩, ih.2 ⟨named, hnamed, hothers⟩⟩

section Values

variable {content : Field σ → Value → (σ → σ) → Prop}
  (hcontent : ∀ field ∈ shape.fields, ∀ {v set},
    field.content.ofValue v = .ok set ↔ content field v set)
include hcontent

theorem ofMembers_eq_ok_iff {ms : List (String × Value)} {st : σ} {a : α} :
    shape.ofMembers st ms = .ok a ↔ shape.Gathers content st ms a := by
  induction ms generalizing st with
  | nil => rw [Shape.ofMembers, gathers_nil_iff]
  | cons m ms ih =>
    rw [gathers_cons_iff, Shape.ofMembers]
    simp only [Shape.Takes]
    split
    · next hfield => simp [ih, hfield]
    · next field hfield =>
      simp only [hfield, ← hcontent field (List.mem_of_find?_eq_some hfield)]
      split
      · next hread => simp [hread]
      · next hfresh =>
        rcases field.content.ofValue m.2 with c | set
        · simp
        · simp [ih, Bool.eq_false_iff.2 hfresh]

theorem ofPositions_eq_ok_iff {fields : List (Field σ)}
    (hfields : ∀ field ∈ fields, field ∈ shape.fields) {i : Nat} {vs : List Value} {st : σ}
    {a : α} : shape.ofPositions i fields st vs = .ok a ↔
      shape.GathersNext content fields st vs a := by
  induction vs generalizing i fields st with
  | nil =>
    rw [gathersNext_nil_iff]
    cases fields with
    | nil => simp [Shape.ofPositions]
    | cons field fields =>
      rw [Shape.ofPositions]
      split <;> simp_all
  | cons v vs ih =>
    cases fields with
    | nil => simp [Shape.ofPositions, not_gathersNext_cons]
    | cons field fields =>
      rw [List.forall_mem_cons] at hfields
      rw [gathersNext_cons_iff hfields.1, Shape.ofPositions]
      simp only [← hcontent field hfields.1]
      rcases field.content.ofValue v with c | set
      · simp
      · simp [ih hfields.2]

end Values

section Texts

variable {content : Field σ → Node → (σ → σ) → Prop}
  (hcontent : ∀ field ∈ shape.fields, ReadsAs field.content.read (content field))
include hcontent

/-- A row is read as the members of a record just as the record is gathered from them. -/
theorem fields_iff_of_row {ms : List (List Char × Node)} {row : List Char}
    (hrow : Row (MemberWritten Node.Written) ms row) {a : α} {rest rest' : Bytes} :
    Fields shape true shape.start a (toBytes row ++ 0x7D :: rest) rest' ↔
      (∃ named, Named ms named ∧ shape.Gathers content shape.start named a) ∧ rest' = rest := by
  have htake : ∀ {key : String} {n : Node} {t}, n.Written t → ∀ {before}, Blanks before →
      ∀ {rest}, Ends rest → ∀ {st st' u},
        Member shape key st st' (toBytes before ++ (toBytes t ++ rest)) u ↔
          shape.Takes content (key, n) st st' ∧ u = rest := by
    intro key n t hn before hbefore rest hrest st st' u
    unfold Member Shape.Takes
    rcases hfield : shape.field? key with _ | field
    · simp only [← reads_skipValue_iff, reads_skipValue_iff_of_written hn hbefore hrest]
    · have hread := @hcontent field (List.mem_of_find?_eq_some hfield) _ _ hn _ hbefore _ hrest
      simp only [hread, ← and_assoc, exists_and_right]
  have hrun : ∀ st', Run .object (KeyedValue (Member shape)) true shape.start st'
      (toBytes row ++ 0x7D :: rest) rest' ↔ _ := fun st' =>
    run_iff_of_row (partLaw_keyedValue htake) hrow
  have hleads : ∀ st', Leads _ ms shape.start st' ↔ _ := fun st' =>
    leads_named_iff fun key n => shape.Takes content (key, n)
  simp only [fields_iff_run, hrun, hleads, Shape.Gathers]
  constructor
  · rintro ⟨st', ⟨⟨named, hnamed, hleads⟩, hrest'⟩, hfinish⟩
    exact ⟨⟨named, hnamed, st', hleads, hfinish⟩, hrest'⟩
  · rintro ⟨⟨named, hnamed, st', hleads, hfinish⟩, hrest'⟩
    exact ⟨st', ⟨⟨named, hnamed, hleads⟩, hrest'⟩, hfinish⟩

/-- A row is read as the elements of a record just as the record is gathered from them. -/
theorem positions_iff_of_row {xs : List Node} {row : List Char} (hrow : Row Node.Written xs row)
    {a : α} {rest rest' : Bytes} :
    Positions shape true shape.fields shape.start a (toBytes row ++ 0x5D :: rest) rest' ↔
      shape.GathersNext content shape.fields shape.start xs a ∧ rest' = rest := by
  have htake : ∀ {n : Node} {t}, n.Written t → ∀ {rest}, Ends rest →
      ∀ {p p' : List (Field σ) × σ} {u}, (∃ field ∈ shape.fields, ∃ set, p.1 = field :: p'.1 ∧
          p'.2 = set p.2 ∧ Reads field.content.read set (toBytes t ++ rest) u) ↔
        shape.TakesNext content n p p' ∧ u = rest := by
    intro n t hn rest hrest p p' u
    have hread : ∀ field ∈ shape.fields, ∀ set,
        Reads field.content.read set (toBytes t ++ rest) u ↔ content field n set ∧ u = rest :=
      fun field hfield set => hcontent field hfield hn (List.forall_mem_nil _) hrest
    constructor
    · rintro ⟨field, hfield, set, hleft, hset, hthis⟩
      obtain ⟨hthis, hu⟩ := (hread field hfield set).1 hthis
      exact ⟨⟨field, hfield, set, hleft, hset, hthis⟩, hu⟩
    · rintro ⟨⟨field, hfield, set, hleft, hset, hthis⟩, hu⟩
      exact ⟨field, hfield, set, hleft, hset, (hread field hfield set).2 ⟨hthis, hu⟩⟩
  have hrun : ∀ left st', Run .list (Element fun p p' s u => ∃ field ∈ shape.fields, ∃ set,
        p.1 = field :: p'.1 ∧ p'.2 = set p.2 ∧ Reads field.content.read set s u) true
      (shape.fields, shape.start) (left, st') (toBytes row ++ 0x5D :: rest) rest' ↔ _ :=
    fun left st' => run_iff_of_row (partLaw_element htake) hrow
  simp only [positions_iff_run fun _ => id, hrun, Shape.GathersNext]
  constructor
  · rintro ⟨left, st', ⟨hleads, hrest'⟩, hend⟩
    exact ⟨⟨left, st', hleads, hend⟩, hrest'⟩
  · rintro ⟨⟨left, st', hleads, hend⟩, hrest'⟩
    exact ⟨left, st', ⟨hleads, hrest'⟩, hend⟩

end Texts

/-- **A record is a list of its fields or an object.** As a list it has them in their order, perhaps
not all of them; as an object it may have members of other names, which are ignored. -/
theorem means_record {content : Field σ → Meaning (σ → σ)}
    (hfields : ∀ field ∈ shape.fields, field.content.Means (content field)) :
    (Decoder.record shape).Means fun τ V x a =>
      (∃ xs, V.items x xs ∧
        shape.GathersNext (fun field => content field τ V) shape.fields shape.start xs a) ∨
      ∃ ms, V.members x ms ∧ shape.Gathers (fun field => content field τ V) shape.start ms a where
  reads_iff := by
    intro n t hn before hbefore rest hrest a rest'
    have hcontent : ∀ field ∈ shape.fields,
        ReadsAs field.content.read (content field Node Node.view) :=
      fun field hfield => (hfields field hfield).reads_iff
    rw [Decoder.reads_record_iff, comp_mark_list_iff hn hbefore, comp_mark_object_iff hn hbefore]
    constructor
    · rintro (⟨items, row, rfl, hrow, -, hread⟩ | ⟨ms, row, rfl, hrow, -, hread⟩)
      · obtain ⟨hgathers, hrest'⟩ := (positions_iff_of_row hcontent hrow).1 hread
        exact ⟨.inl ⟨items, rfl, hgathers⟩, hrest'⟩
      · obtain ⟨⟨named, hnamed, hgathers⟩, hrest'⟩ := (fields_iff_of_row hcontent hrow).1 hread
        exact ⟨.inr ⟨named, ⟨ms, rfl, hnamed⟩, hgathers⟩, hrest'⟩
    · rintro ⟨⟨items, rfl, hgathers⟩ | ⟨named, ⟨ms, rfl, hnamed⟩, hgathers⟩, hrest'⟩
      · cases hn with
        | @list _ row hrow =>
          exact .inl ⟨items, row, rfl, hrow, rfl,
            (positions_iff_of_row hcontent hrow).2 ⟨hgathers, hrest'⟩⟩
      · cases hn with
        | @object _ row hrow =>
          exact .inr ⟨ms, row, rfl, hrow, rfl,
            (fields_iff_of_row hcontent hrow).2 ⟨⟨named, hnamed, hgathers⟩, hrest'⟩⟩
  ofValue_iff := by
    intro v a
    have hcontent : ∀ field ∈ shape.fields, ∀ {v set},
        field.content.ofValue v = .ok set ↔ content field Value Value.view v set :=
      fun field hfield _ _ => (hfields field hfield).ofValue_iff
    cases v <;> simp [Decoder.record, ofMembers_eq_ok_iff hcontent,
      ofPositions_eq_ok_iff hcontent fun _ => id]

/-! ### Whole texts -/

/-- **A text that is one tree decodes as it is read.** -/
theorem decode_eq_ok_iff_of_readsAs {R : Node → α → Prop} (h : ReadsAs d.read R) {n : Node}
    {text : List Char} (hdoc : Document n text) {a : α} :
    d.decode (toBytes text) = .ok a ↔ R n a := by
  obtain ⟨before, t, behind, rfl, hbefore, hn, hbehind⟩ := hdoc
  have hends : Ends (toBytes behind) := by
    have := ends_append hbehind ends_nil
    rwa [List.append_nil] at this
  have hblanks : skipBlanks (toBytes behind) = [] :=
    Decoder.skipBlanks_eq_nil_iff.2 (isBlankByte_of_mem_toBytes hbehind)
  rw [toBytes_append, toBytes_append, List.append_assoc, Decoder.decode_eq_ok_iff_reads]
  simp only [h hn hbefore hends]
  constructor
  · rintro ⟨rest, ⟨ha, -⟩, -⟩
    exact ha
  · intro ha
    exact ⟨_, ⟨ha, rfl⟩, hblanks⟩

/-- **A text that is one tree decodes to what is meant by the tree.** -/
theorem Decoder.Means.decode_eq_ok_iff (h : d.Means M) {n : Node} {text : List Char}
    (hdoc : Document n text) {a : α} :
    d.decode (toBytes text) = .ok a ↔ M Node Node.view n a :=
  decode_eq_ok_iff_of_readsAs h.reads_iff hdoc

end Decoders

end CommitGate.Json
