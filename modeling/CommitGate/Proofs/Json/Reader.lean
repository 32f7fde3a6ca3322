import CommitGate.Json.Reader
import Mathlib.Data.List.TakeWhile
import Mathlib.Logic.Relation

/-!
# How far readers look

What a reader takes is a step from a text to what is left of it (`Reads`). Such a step is looked at
together with what would happen in front of another rest:

* `Peeks` — in front of any rest that starts with the same byte the step is the same;
* `Closes` — in front of any rest at all the step is the same, so that it tells from what it takes
  alone where to stop.

A step that peeks may be followed by one that closes, and both together close: so a text that shows
where it ends may be put together from parts that do not. The readers of punctuation are told as
steps here, and the elements of a list as a chain of them (`Items`).
-/

namespace CommitGate.Json

open Relation (Comp)

/-! ### Steps -/

/-- The value that was taken, and what is left. -/
def Taken.pair {α : Type} {s : Bytes} (t : Taken α s) : α × Bytes := (t.value, t.rest)

/-- The reader takes `a` from the front of `s` and leaves `rest`. -/
def Reads {α : Type} (read : Reader α) (a : α) (s rest : Bytes) : Prop :=
  (read s).map Taken.pair = .ok (a, rest)

theorem reads_iff_of_ok {α : Type} {read : Reader α} {a : α} {s rest : Bytes} {r : Taken α s}
    (h : read s = .ok r) : Reads read a s rest ↔ r.value = a ∧ r.rest = rest := by
  simp [Reads, h, Except.map, Taken.pair]

theorem not_reads_of_error {α : Type} {read : Reader α} {a : α} {s rest : Bytes} {f : Fault}
    (h : read s = .error f) : ¬ Reads read a s rest := by simp [Reads, h, Except.map]

/-- A reader takes one thing. -/
theorem reads_unique {α : Type} {read : Reader α} {a a' : α} {s rest rest' : Bytes}
    (h : Reads read a s rest) (h' : Reads read a' s rest') : a = a' ∧ rest = rest' :=
  Prod.mk.inj (Except.ok.inj (h.symm.trans h'))

/-- What the step takes from `s` it takes in front of any rest that starts with the same byte. -/
def PeeksAt (step : Bytes → Bytes → Prop) (s rest : Bytes) : Prop :=
  ∃ front, s = front ++ rest ∧
    ∀ behind, behind.head? = rest.head? → step (front ++ behind) behind

/-- What the step takes from `s` is something, and it takes it in front of any rest. -/
def ClosesAt (step : Bytes → Bytes → Prop) (s rest : Bytes) : Prop :=
  ∃ front, front ≠ [] ∧ s = front ++ rest ∧ ∀ behind, step (front ++ behind) behind

/-- **The step looks at no more than one byte behind what it takes.** -/
def Peeks (step : Bytes → Bytes → Prop) : Prop :=
  ∀ s rest, step s rest → PeeksAt step s rest

/-- **The step looks at nothing behind what it takes.** -/
def Closes (step : Bytes → Bytes → Prop) : Prop :=
  ∀ s rest, step s rest → ClosesAt step s rest

section Steps

variable {step step' : Bytes → Bytes → Prop} {s m rest : Bytes}

theorem head?_append_congr {front l l' : Bytes} (h : l.head? = l'.head?) :
    (front ++ l).head? = (front ++ l').head? := by
  rw [List.head?_append, List.head?_append, h]

theorem head?_append_of_ne_nil {front : Bytes} (h : front ≠ []) (l l' : Bytes) :
    (front ++ l).head? = (front ++ l').head? := by
  obtain ⟨b, front, rfl⟩ := List.exists_cons_of_ne_nil h
  rfl

/-- What follows a step that can go in one way only. -/
theorem comp_iff_of_iff {P : Prop} (h : ∀ u, step s u ↔ P ∧ m = u) :
    Comp step step' s rest ↔ P ∧ step' m rest := by
  constructor
  · rintro ⟨u, hu, hrest⟩
    obtain ⟨hp, rfl⟩ := (h u).1 hu
    exact ⟨hp, hrest⟩
  · rintro ⟨hp, hrest⟩
    exact ⟨m, (h m).2 ⟨hp, rfl⟩, hrest⟩

theorem not_comp_of_not (h : ∀ u, ¬ step s u) : ¬ Comp step step' s rest :=
  fun ⟨u, hu, _⟩ => h u hu

theorem ClosesAt.peeksAt (h : ClosesAt step s rest) : PeeksAt step s rest := by
  obtain ⟨front, -, hs, hstep⟩ := h
  exact ⟨front, hs, fun behind _ => hstep behind⟩

theorem PeeksAt.mono (h : PeeksAt step s rest) (hsub : ∀ s rest, step s rest → step' s rest) :
    PeeksAt step' s rest := by
  obtain ⟨front, hs, hstep⟩ := h
  exact ⟨front, hs, fun behind hb => hsub _ _ (hstep behind hb)⟩

theorem ClosesAt.mono (h : ClosesAt step s rest) (hsub : ∀ s rest, step s rest → step' s rest) :
    ClosesAt step' s rest := by
  obtain ⟨front, hne, hs, hstep⟩ := h
  exact ⟨front, hne, hs, fun behind => hsub _ _ (hstep behind)⟩

theorem PeeksAt.comp (h : PeeksAt step s m) (h' : PeeksAt step' m rest) :
    PeeksAt (Comp step step') s rest := by
  obtain ⟨front, rfl, hstep⟩ := h
  obtain ⟨front', rfl, hstep'⟩ := h'
  refine ⟨front ++ front', (List.append_assoc ..).symm, fun behind hb => ?_⟩
  refine ⟨front' ++ behind, ?_, hstep' behind hb⟩
  rw [List.append_assoc]
  exact hstep _ (head?_append_congr hb)

/-- A step that peeks has something of its own to look at in front of one that closes. -/
theorem PeeksAt.comp_closesAt (h : PeeksAt step s m) (h' : ClosesAt step' m rest) :
    ClosesAt (Comp step step') s rest := by
  obtain ⟨front, rfl, hstep⟩ := h
  obtain ⟨front', hne, rfl, hstep'⟩ := h'
  refine ⟨front ++ front', by simp [hne], (List.append_assoc ..).symm, fun behind => ?_⟩
  refine ⟨front' ++ behind, ?_, hstep' behind⟩
  rw [List.append_assoc]
  exact hstep _ (head?_append_of_ne_nil hne _ _)

theorem Closes.peeks (h : Closes step) : Peeks step := fun s rest hs => (h s rest hs).peeksAt

theorem Closes.congr (hiff : ∀ s rest, step' s rest ↔ step s rest) (h : Closes step) :
    Closes step' := fun s rest hs =>
  (h s rest ((hiff s rest).1 hs)).mono fun s rest => (hiff s rest).2

theorem Peeks.comp (h : Peeks step) (h' : Peeks step') : Peeks (Comp step step') := by
  rintro s rest ⟨m, hs, hm⟩
  exact (h s m hs).comp (h' m rest hm)

theorem Peeks.comp_closes (h : Peeks step) (h' : Closes step') : Closes (Comp step step') := by
  rintro s rest ⟨m, hs, hm⟩
  exact (h s m hs).comp_closesAt (h' m rest hm)

theorem Closes.comp_closes (h : Closes step) (h' : Closes step') : Closes (Comp step step') :=
  h.peeks.comp_closes h'

theorem Closes.or (h : Closes step) (h' : Closes step') :
    Closes fun s rest => step s rest ∨ step' s rest := by
  rintro s rest (hs | hs)
  · exact (h s rest hs).mono fun _ _ => .inl
  · exact (h' s rest hs).mono fun _ _ => .inr

/-- Any one of many steps closes if each of them does. -/
theorem Closes.exists {ι : Sort _} {steps : ι → Bytes → Bytes → Prop} (h : ∀ i, Closes (steps i)) :
    Closes fun s rest => ∃ i, steps i s rest := by
  rintro s rest ⟨i, hs⟩
  exact (h i s rest hs).mono fun _ _ hi => ⟨i, hi⟩

end Steps

/-! ### Blanks and punctuation -/

/-- What is left behind blanks starts with a byte that is none, and the blanks stand before it. -/
theorem skipBlanks_eq_cons_iff {s t : Bytes} {b : UInt8} :
    skipBlanks s = b :: t ↔
      ∃ blanks, s = blanks ++ b :: t ∧ (∀ c ∈ blanks, isBlankByte c = true) ∧
        isBlankByte b = false := by
  constructor
  · intro h
    refine ⟨s.takeWhile isBlankByte, ?_, ?_, ?_⟩
    · rw [← h, skipBlanks, List.takeWhile_append_dropWhile]
    · exact fun c hc => List.mem_takeWhile_imp hc
    · have := List.head?_dropWhile_not isBlankByte s
      rw [show s.dropWhile isBlankByte = b :: t from h] at this
      exact this
  · rintro ⟨blanks, rfl, hblanks, hb⟩
    rw [skipBlanks, List.dropWhile_append_of_pos hblanks, List.dropWhile_cons_of_neg (by simp [hb])]

/-- Behind blanks, the byte `b`. -/
def Mark (b : UInt8) (s rest : Bytes) : Prop := skipBlanks s = b :: rest

theorem closes_mark (b : UInt8) : Closes (Mark b) := by
  intro s rest h
  obtain ⟨blanks, rfl, hblanks, hb⟩ := skipBlanks_eq_cons_iff.1 h
  refine ⟨blanks ++ [b], by simp, by simp, fun behind => ?_⟩
  exact skipBlanks_eq_cons_iff.2 ⟨blanks, by simp, hblanks, hb⟩

/-- Blanks in front of a byte with `p`. -/
def SkipsTo (p : UInt8 → Prop) (s rest : Bytes) : Prop :=
  ∃ b t, skipBlanks s = b :: t ∧ p b ∧ rest = b :: t

theorem peeks_skipsTo (p : UInt8 → Prop) : Peeks (SkipsTo p) := by
  rintro s _ ⟨b, t, h, hp, rfl⟩
  obtain ⟨blanks, rfl, hblanks, hb⟩ := skipBlanks_eq_cons_iff.1 h
  refine ⟨blanks, rfl, fun behind hhead => ?_⟩
  obtain ⟨t', rfl⟩ := List.head?_eq_some_iff.1 hhead
  exact ⟨b, t', skipBlanks_eq_cons_iff.2 ⟨blanks, rfl, hblanks, hb⟩, hp, rfl⟩

section Front

variable {s t rest : Bytes} {b c : UInt8} {p : UInt8 → Prop}

theorem mark_iff_of_cons (h : skipBlanks s = b :: t) : Mark c s rest ↔ b = c ∧ t = rest := by
  rw [Mark, h, List.cons.injEq]

theorem not_mark_of_nil (h : skipBlanks s = []) : ¬ Mark c s rest := by simp [Mark, h]

theorem skipsTo_iff_of_cons (h : skipBlanks s = b :: t) :
    SkipsTo p s rest ↔ p b ∧ b :: t = rest := by
  constructor
  · rintro ⟨_, _, h', hp, rfl⟩
    cases h.symm.trans h'
    exact ⟨hp, rfl⟩
  · rintro ⟨hp, rfl⟩
    exact ⟨b, t, h, hp, rfl⟩

theorem not_skipsTo_of_nil (h : skipBlanks s = []) : ¬ SkipsTo p s rest := by
  rintro ⟨b, t, h', -⟩
  cases h.symm.trans h'

end Front

/-- What stands before a part: nothing before the first one, a comma before any other. -/
def Separator (first : Bool) (s rest : Bytes) : Prop :=
  if first then rest = s else Mark 0x2C s rest

theorem separator_false_iff {s rest : Bytes} : Separator false s rest ↔ Mark 0x2C s rest := by
  simp [Separator]

theorem separator_true_iff {s rest : Bytes} : Separator true s rest ↔ True ∧ s = rest := by
  simp [Separator, eq_comm]

theorem peeks_separator (first : Bool) : Peeks (Separator first) := by
  rcases first with _ | _
  · exact (closes_mark _).peeks
  · rintro s _ rfl
    exact ⟨[], rfl, fun behind _ => rfl⟩

/-- The bytes of `word`. -/
def Literal (word : Bytes) (s rest : Bytes) : Prop := s = word ++ rest

theorem closes_literal (b : UInt8) (word : Bytes) : Closes (Literal (b :: word)) :=
  fun _ _ hs => ⟨b :: word, List.cons_ne_nil b word, hs, fun _ => rfl⟩

theorem readWord_eq_ok_iff {word s rest : Bytes} :
    (readWord word s).map Subtype.val = .ok rest ↔ Literal word s rest := by
  unfold Literal
  induction word generalizing s with
  | nil => simp [readWord, Suffix.whole, Except.map]
  | cons b word ih =>
    rcases s with _ | ⟨c, s⟩
    · simp [readWord, Except.map]
    rw [List.cons_append, List.cons.injEq, ← ih, readWord]
    by_cases hb : b = c
    · rw [if_pos hb]
      rcases readWord word s with f | t <;> simp [Except.map, hb]
    · rw [if_neg hb]
      simp [Except.map, Ne.symm hb]

/-! ### Lists -/

/-- In front of its closing bracket, a list has no next element. -/
theorem nextItem_of_mark (first : Bool) {s rest : Bytes} (h : Mark 0x5D s rest) :
    nextItem first s = .ok none := by
  unfold nextItem
  split
  · next h' => exact absurd h (not_mark_of_nil h')
  · next b t h' =>
    rw [mark_iff_of_cons h'] at h
    rw [if_pos h.1]

/-- The step in front of the next element: what separates it, then blanks. -/
theorem nextItem_eq_some_iff {first : Bool} {s rest : Bytes} :
    (nextItem first s).map (Option.map Subtype.val) = .ok (some rest) ↔
      Comp (Separator first) (SkipsTo (· ≠ 0x5D)) s rest := by
  unfold nextItem
  rcases first with _ | _
  · split
    · next h =>
      simp [not_comp_of_not fun u hu => not_mark_of_nil h (separator_false_iff.1 hu), Except.map]
    next b t h =>
    rw [comp_iff_of_iff fun u => separator_false_iff.trans (mark_iff_of_cons h)]
    split
    · next hb => simp [hb, Except.map]
    rw [if_neg Bool.false_ne_true]
    split
    · next hcomma =>
      split
      · next h' => simp [not_skipsTo_of_nil h', Except.map]
      · next c u h' =>
        rw [skipsTo_iff_of_cons h']
        split
        · next hc => simp [hc, Except.map]
        · next hc => simp [hc, hcomma, Except.map]
    · next hcomma => simp [hcomma, Except.map]
  · rw [comp_iff_of_iff fun u => separator_true_iff, true_and]
    split
    · next h => simp [not_skipsTo_of_nil h, Except.map]
    next b t h =>
    rw [skipsTo_iff_of_cons h]
    split
    · next hb => simp [hb, Except.map]
    · next hb => simp [hb, Except.map]

/-- In front of its next element, a list has that one. -/
theorem exists_nextItem_of_start {first : Bool} {s u : Bytes}
    (h : Comp (Separator first) (SkipsTo (· ≠ 0x5D)) s u) :
    ∃ start : Suffix s, nextItem first s = .ok (some start) ∧ start.1 = u := by
  have hmap := nextItem_eq_some_iff.2 h
  rcases hnext : nextItem first s with f | _ | start
  · simp [hnext, Except.map] at hmap
  · simp [hnext, Except.map] at hmap
  · simp only [hnext, Except.map, Option.map_some, Except.ok.injEq, Option.some.injEq] at hmap
    exact ⟨start, rfl, hmap⟩

theorem start_of_nextItem {first : Bool} {s : Bytes} {start : Suffix s}
    (h : nextItem first s = .ok (some start)) :
    Comp (Separator first) (SkipsTo (· ≠ 0x5D)) s start.1 :=
  nextItem_eq_some_iff.1 (by simp [h, Except.map])

theorem reads_closeList_iff {s rest : Bytes} : Reads closeList () s rest ↔ Mark 0x5D s rest := by
  unfold Reads closeList
  split
  · next h => simp [not_mark_of_nil h, Except.map]
  · next b t h =>
    rw [mark_iff_of_cons h]
    split
    · next hb => simp [hb, Except.map, Taken.pair]
    · next hb =>
      simp only [hb, false_and, iff_false]
      repeat' split
      all_goals simp [Except.map]

/-- **The elements of a list**, each taken by a step of its own, and the closing bracket. -/
inductive Items {α : Type} (item : α → Bytes → Bytes → Prop) :
    Bool → List α → Bytes → Bytes → Prop
  | close {first : Bool} {s rest : Bytes} (end_ : Mark 0x5D s rest) : Items item first [] s rest
  | next {first : Bool} {a : α} {items : List α} {s u v rest : Bytes}
    (start : Comp (Separator first) (SkipsTo (· ≠ 0x5D)) s u) (this : item a u v)
    (others : Items item false items v rest) : Items item first (a :: items) s rest

/-- A list closes if its elements close, or only peek: what follows them is not nothing. -/
theorem closes_items {α : Type} {item : α → Bytes → Bytes → Prop} (hitem : ∀ a, Peeks (item a))
    (first : Bool) (items : List α) : Closes (Items item first items) := by
  intro s rest h
  induction h with
  | close end_ => exact (closes_mark _ _ _ end_).mono fun _ _ => .close
  | next start this _ ih =>
    -- the other elements and the bracket stand behind this one, so it is enough that it peeks
    have hstart := ((peeks_separator _).comp (peeks_skipsTo _)) _ _ start
    refine (hstart.comp_closesAt ((hitem _ _ _ this).comp_closesAt ih)).mono ?_
    rintro s rest ⟨u, hu, v, hv, hrest⟩
    exact .next hu hv hrest

section Items

variable {α : Type} {item : Reader α} {first : Bool} {items : List α} {s rest : Bytes}

theorem not_items_of_error {f : Fault} (h : nextItem first s = .error f) :
    ¬ Items (Reads item) first items s rest := by
  rintro (end_ | ⟨start, -, -⟩)
  · cases h.symm.trans (nextItem_of_mark first end_)
  · obtain ⟨_, hstart, -⟩ := exists_nextItem_of_start start
    cases h.symm.trans hstart

theorem items_iff_of_none (h : nextItem first s = .ok none) :
    Items (Reads item) first items s rest ↔ items = [] ∧ Mark 0x5D s rest := by
  constructor
  · rintro (end_ | ⟨start, -, -⟩)
    · exact ⟨rfl, end_⟩
    · obtain ⟨_, hstart, -⟩ := exists_nextItem_of_start start
      cases h.symm.trans hstart
  · rintro ⟨rfl, end_⟩
    exact .close end_

theorem items_iff_of_some {u : Suffix s} (h : nextItem first s = .ok (some u)) :
    Items (Reads item) first items s rest ↔
      ∃ a others v, items = a :: others ∧ Reads item a u.1 v ∧
        Items (Reads item) false others v rest := by
  constructor
  · rintro (end_ | ⟨start, this, others⟩)
    · cases h.symm.trans (nextItem_of_mark first end_)
    · obtain ⟨_, hstart, rfl⟩ := exists_nextItem_of_start start
      cases h.symm.trans hstart
      exact ⟨_, _, _, rfl, this, others⟩
  · rintro ⟨a, others, v, rfl, this, others'⟩
    exact .next (start_of_nextItem h) this others'

/-- The loop takes the elements from some number on. -/
theorem readItems_go_iff {t : Bytes} {i : Nat} {acc l : List α} {h : t.length ≤ s.length} :
    (readItems.go item s i acc t h).map Taken.pair = .ok (l, rest) ↔
      ∃ items, l = acc.reverse ++ items ∧ Items (Reads item) (i == 0) items t rest := by
  fun_induction readItems.go item s i acc t h with
  | case1 i acc t h f hnext => simp [not_items_of_error hnext, Except.map]
  | case2 i acc t h hnext f hclose =>
    simp [items_iff_of_none hnext, ← reads_closeList_iff, not_reads_of_error hclose, Except.map]
  | case3 i acc t h hnext r hclose =>
    simp only [items_iff_of_none hnext, ← reads_closeList_iff, reads_iff_of_ok hclose, Except.map,
      Taken.pair, Except.ok.injEq, Prod.mk.injEq, true_and]
    constructor
    · rintro ⟨rfl, hrest⟩
      exact ⟨[], (List.append_nil _).symm, rfl, hrest⟩
    · rintro ⟨_, rfl, rfl, hrest⟩
      exact ⟨(List.append_nil _).symm, hrest⟩
  | case4 i acc t h u hnext f hitem =>
    simp [items_iff_of_some hnext, not_reads_of_error hitem, Except.map]
  | case5 i acc t h u hnext r hitem hlt ih =>
    rw [ih]
    simp only [items_iff_of_some hnext, reads_iff_of_ok hitem, List.reverse_cons,
      List.append_assoc, List.singleton_append]
    constructor
    · rintro ⟨items, rfl, others⟩
      exact ⟨_, rfl, _, _, _, rfl, ⟨rfl, rfl⟩, others⟩
    · rintro ⟨_, rfl, _, items, _, rfl, ⟨rfl, rfl⟩, others⟩
      exact ⟨items, rfl, others⟩

/-- A list is read as its elements are. -/
theorem reads_readItems_iff :
    Reads (readItems item) items s rest ↔ Items (Reads item) true items s rest := by
  rw [Reads, readItems, readItems_go_iff]
  simp

end Items

end CommitGate.Json
