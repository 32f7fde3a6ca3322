import CommitGate.Proofs.Json.Record

/-!
# Decoding the front of a text

The decoders that records are put together from show where their content ends: `Decoder.Closes`. With
such a decoder

* the content at the front of a text is what some beginning of the text decodes to, whatever stands
  behind that (`Decoder.decodeFront_eq_ok_iff`);
* it is the content of the text exactly as long as nothing but blanks stands behind any beginning
  that decodes (`Decoder.decodeFront_agrees_iff`).
-/

namespace CommitGate.Json

open Relation (Comp)

namespace Decoder

variable {α β σ : Type} {d : Decoder α} {s rest : Bytes}

/-! ### The decoders -/

theorem reads_map_iff {f : α → β} {b : β} :
    Reads (d.map f).read b s rest ↔ ∃ a, f a = b ∧ Reads d.read a s rest := by
  unfold Reads Decoder.map
  dsimp only
  rcases d.read s with e | r
  · simp [Except.map]
  · simp only [Except.map, Taken.pair, Taken.map, Except.ok.injEq, Prod.mk.injEq]
    constructor
    · rintro ⟨hb, hrest⟩
      exact ⟨_, hb, rfl, hrest⟩
    · rintro ⟨_, hb, rfl, hrest⟩
      exact ⟨hb, hrest⟩

theorem Closes.map (h : d.Closes) (f : α → β) : (d.map f).Closes := fun b =>
  .congr (fun _ _ => reads_map_iff) <| .exists fun a => by
    rintro s rest ⟨hb, hs⟩
    exact (h a _ _ hs).mono fun _ _ hs => ⟨hb, hs⟩

theorem reads_string_iff {text : String} :
    Reads string.read text s rest ↔ Comp (Mark 0x22) (Reads readString text) s rest := by
  unfold Reads string
  dsimp only
  split
  · next h => simp [not_comp_of_not fun _ => not_mark_of_nil h, Except.map]
  next b t h =>
  rw [comp_iff_of_iff fun _ => mark_iff_of_cons h]
  split
  · next hb =>
    rcases readString t with f | r <;> simp [hb, Except.map, Taken.pair, Taken.lift]
  · next hb => simp [hb, Except.map]

theorem closes_string : string.Closes := fun text =>
  .congr (fun _ _ => reads_string_iff) <| (closes_mark _).comp_closes (closes_readString text)

theorem reads_orNull_iff {a : Option α} :
    Reads d.orNull.read a s rest ↔
      (a = none ∧ Comp (Mark 0x6E) (Literal [0x75, 0x6C, 0x6C]) s rest) ∨
        ∃ x, a = some x ∧ Comp (SkipsTo (· ≠ 0x6E)) (Reads d.read x) s rest := by
  unfold Reads orNull
  dsimp only
  split
  · next h =>
    simp [not_comp_of_not fun _ => not_mark_of_nil h, not_comp_of_not fun _ => not_skipsTo_of_nil h,
      Except.map]
  next b t h =>
  rw [comp_iff_of_iff fun _ => mark_iff_of_cons h, ← readWord_eq_ok_iff]
  simp only [comp_iff_of_iff fun _ => skipsTo_iff_of_cons h]
  split
  · next hb =>
    rcases readWord [0x75, 0x6C, 0x6C] t with f | u <;> simp [hb, Except.map, Taken.pair, eq_comm]
  · next hb =>
    rcases d.read (b :: t) with f | r
    · simp [hb, Except.map]
    · simp only [hb, Except.map, Taken.pair, Taken.lift, Taken.map, Except.ok.injEq, Prod.mk.injEq,
        ne_eq, not_false_eq_true, true_and, false_and, and_false, false_or]
      constructor
      · rintro ⟨rfl, hrest⟩
        exact ⟨_, rfl, rfl, hrest⟩
      · rintro ⟨_, rfl, rfl, hrest⟩
        exact ⟨rfl, hrest⟩

theorem Closes.orNull (h : d.Closes) : d.orNull.Closes := by
  intro a s rest hs
  rcases reads_orNull_iff.1 hs with ⟨rfl, hnull⟩ | ⟨x, rfl, hsome⟩
  · exact ((closes_mark _).comp_closes (closes_literal _ _) _ _ hnull).mono fun _ _ hnull =>
      reads_orNull_iff.2 (.inl ⟨rfl, hnull⟩)
  · exact ((peeks_skipsTo _).comp_closes (h x) _ _ hsome).mono fun _ _ hsome =>
      reads_orNull_iff.2 (.inr ⟨x, rfl, hsome⟩)

theorem reads_list_iff {items : List α} :
    Reads d.list.read items s rest ↔ Comp (Mark 0x5B) (Items (Reads d.read) true items) s rest := by
  rw [Reads, list]
  dsimp only
  split
  · next h => simp [not_comp_of_not fun _ => not_mark_of_nil h, Except.map]
  next b t h =>
  rw [comp_iff_of_iff fun _ => mark_iff_of_cons h, ← reads_readItems_iff, Reads]
  split
  · next hb =>
    rcases readItems d.read t with f | r <;> simp [hb, Except.map, Taken.pair, Taken.lift]
  · next hb => simp [hb, Except.map]

theorem Closes.list (h : d.Closes) : d.list.Closes := fun items =>
  .congr (fun _ _ => reads_list_iff) <|
    (closes_mark _).comp_closes (closes_items (fun a => (h a).peeks) true items)

theorem reads_record_iff {shape : Shape σ α} {a : α} :
    Reads (record shape).read a s rest ↔
      Comp (Mark 0x5B) (Positions shape true shape.fields shape.start a) s rest ∨
        Comp (Mark 0x7B) (Fields shape true shape.start a) s rest := by
  unfold Reads record
  dsimp only
  split
  · next h => simp [not_comp_of_not fun _ => not_mark_of_nil h, Except.map]
  next b t h =>
  have hpositions : Positions shape true shape.fields shape.start a t rest ↔ _ :=
    (reads_readPositions_iff (i := 0)).symm
  rw [comp_iff_of_iff fun _ => mark_iff_of_cons h, comp_iff_of_iff fun _ => mark_iff_of_cons h,
    hpositions, ← reads_readFields_iff, Reads, Reads]
  split
  · next hb =>
    rcases shape.readPositions 0 shape.fields shape.start t with f | r <;>
      simp [hb, Except.map, Taken.pair, Taken.lift]
  next hlist =>
  split
  · next hb =>
    rcases shape.readFields t with f | r <;> simp [hb, Except.map, Taken.pair, Taken.lift]
  · next hb => simp [hlist, hb, Except.map]

/-- A record shows where it ends if the contents of its fields do. -/
theorem closes_record {shape : Shape σ α} (h : ∀ field ∈ shape.fields, field.content.Closes) :
    (record shape).Closes := fun a =>
  .congr (fun _ _ => reads_record_iff) <|
    .or ((closes_mark _).comp_closes (closes_positions true h shape.start a))
      ((closes_mark _).comp_closes (closes_fields h true shape.start a))

/-! ### Whole texts -/

theorem decodeFront_eq_ok_iff_reads {text : Bytes} {a : α} :
    d.decodeFront text = .ok a ↔ ∃ rest, Reads d.read a text rest := by
  unfold decodeFront
  rcases h : d.read text with f | r
  · simp [not_reads_of_error h]
  · simp [reads_iff_of_ok h]

theorem decode_eq_ok_iff_reads {text : Bytes} {a : α} :
    d.decode text = .ok a ↔ ∃ rest, Reads d.read a text rest ∧ skipBlanks rest = [] := by
  unfold decode
  rcases h : d.read text with f | r
  · simp [not_reads_of_error h]
  · rcases hb : skipBlanks r.rest with _ | ⟨b, t⟩
    · simp [reads_iff_of_ok h, and_assoc, hb]
    · simp [reads_iff_of_ok h, and_assoc, hb]

theorem skipBlanks_eq_nil_iff : skipBlanks s = [] ↔ ∀ b ∈ s, isBlankByte b = true := by
  rw [skipBlanks, List.dropWhile_eq_nil_iff]

/-- What is read of a text is a beginning of it, which decodes on its own. -/
theorem Closes.exists_decode (h : d.Closes) {text : Bytes} {a : α} (hs : Reads d.read a text rest) :
    ∃ front, text = front ++ rest ∧ d.decode front = .ok a := by
  obtain ⟨front, -, rfl, hfront⟩ := h a _ _ hs
  have halone := hfront []
  rw [List.append_nil] at halone
  exact ⟨front, rfl, decode_eq_ok_iff_reads.2 ⟨[], halone, rfl⟩⟩

/-- What decodes on its own is read in front of anything, up to the blanks at its end. -/
theorem Closes.reads_append (h : d.Closes) {front : Bytes} {a : α} (hd : d.decode front = .ok a)
    (behind : Bytes) : ∃ blanks, Reads d.read a (front ++ behind) (blanks ++ behind) := by
  obtain ⟨blanks, hs, -⟩ := decode_eq_ok_iff_reads.1 hd
  obtain ⟨taken, -, rfl, htaken⟩ := h a _ _ hs
  refine ⟨blanks, ?_⟩
  rw [List.append_assoc]
  exact htaken (blanks ++ behind)

/-- **The content at the front of a text is what some beginning of it decodes to.** -/
theorem decodeFront_eq_ok_iff (h : d.Closes) {text : Bytes} {a : α} :
    d.decodeFront text = .ok a ↔
      ∃ front behind, text = front ++ behind ∧ d.decode front = .ok a := by
  rw [decodeFront_eq_ok_iff_reads]
  constructor
  · rintro ⟨rest, hs⟩
    obtain ⟨front, rfl, hd⟩ := h.exists_decode hs
    exact ⟨front, rest, rfl, hd⟩
  · rintro ⟨front, behind, rfl, hd⟩
    obtain ⟨blanks, hs⟩ := h.reads_append hd behind
    exact ⟨blanks ++ behind, hs⟩

/-- A beginning of the text decodes, and something that is no blank stands behind it. -/
def Continues (d : Decoder α) (text : Bytes) : Prop :=
  ∃ front behind a, text = front ++ behind ∧ d.decode front = .ok a ∧
    ∃ b ∈ behind, isBlankByte b = false

/-- **The content at the front of a text is the content of the text** just if the text does not go
on behind a beginning that decodes. -/
theorem decodeFront_agrees_iff (h : d.Closes) {text : Bytes} :
    (∀ a, d.decodeFront text = .ok a ↔ d.decode text = .ok a) ↔ ¬ d.Continues text := by
  constructor
  · rintro hagree ⟨front, behind, a, rfl, hd, b, hb, hblank⟩
    have hfront := (decodeFront_eq_ok_iff h).2 ⟨front, behind, rfl, hd⟩
    -- the whole text is read up to the same place as its beginning, and blanks are all that is left
    obtain ⟨rest, hs, hrest⟩ := decode_eq_ok_iff_reads.1 ((hagree a).1 hfront)
    obtain ⟨blanks, hs'⟩ := h.reads_append hd behind
    obtain rfl : rest = blanks ++ behind := by
      rw [Reads] at hs hs'
      simpa using hs.symm.trans hs'
    have := skipBlanks_eq_nil_iff.1 hrest b (List.mem_append_right _ hb)
    simp [hblank] at this
  · intro hno a
    rw [decode_eq_ok_iff_reads, decodeFront_eq_ok_iff_reads]
    refine exists_congr fun rest => (and_iff_left_of_imp fun hs => ?_).symm
    obtain ⟨front, rfl, hd⟩ := h.exists_decode hs
    rw [skipBlanks_eq_nil_iff]
    intro b hb
    rw [← Bool.not_eq_false]
    intro hblank
    exact hno ⟨front, rest, a, rfl, hd, b, hb, hblank⟩

end Decoder

end CommitGate.Json
