import CommitGate.Json.Skip
import CommitGate.Proofs.Json.Escape
import CommitGate.Proofs.Json.Numeral

/-!
# What is taken of values that are skipped

A value that is skipped is a chain of tokens, each with what may follow it inside the brackets that
are open (`Skipped`). A value may be a number, so one byte behind it is looked at.
-/

namespace CommitGate.Json

open Relation (Comp)

/-! ### Keys -/

theorem reads_readColon_iff {s rest : Bytes} : Reads readColon () s rest ↔ Mark 0x3A s rest := by
  unfold Reads readColon
  split
  · next h => simp [not_mark_of_nil h, Except.map]
  · next b t h =>
    rw [mark_iff_of_cons h]
    split
    · next hb => simp [hb, Except.map, Taken.pair]
    · next hb => simp [hb, Except.map]

/-- A key that is skipped, and its colon. -/
def SkippedKey : Bytes → Bytes → Prop := Comp (Mark 0x22) (Comp SkippedString (Mark 0x3A))

theorem closes_skippedKey : Closes SkippedKey :=
  (closes_mark _).comp_closes (closes_skippedString.comp_closes (closes_mark _))

theorem reads_skipKey_iff {s rest : Bytes} : Reads skipKey () s rest ↔ SkippedKey s rest := by
  unfold Reads skipKey SkippedKey
  split
  · next h => simp [not_comp_of_not fun _ => not_mark_of_nil h, Except.map]
  · next b t h =>
    rw [comp_iff_of_iff fun u => mark_iff_of_cons h]
    dsimp only
    split
    · next hb =>
      rcases hr : skipString t with f | r
      · simp [not_comp_of_not fun u hu => not_reads_of_error hr (reads_skipString_iff.2 hu),
          Except.map]
      rw [comp_iff_of_iff fun u => reads_skipString_iff.symm.trans (reads_iff_of_ok hr),
        ← reads_readColon_iff]
      dsimp only
      rcases hc : readColon r.rest with f | r'
      · simp [not_reads_of_error hc, Except.map]
      · simp [reads_iff_of_ok hc, hb, Except.map, Taken.pair]
    · next hb => simp [hb, Except.map]

/-- What stands in front of a value inside a bracket. -/
def Enters : Frame → Bytes → Bytes → Prop
  | .list, s, rest => s = rest
  | .object, s, rest => SkippedKey s rest

theorem enter_eq_ok_iff {frame : Frame} {s rest : Bytes} :
    (enter frame s).map Subtype.val = .ok rest ↔ Enters frame s rest := by
  cases frame with
  | list => simp [enter, Enters, Suffix.whole, Except.map]
  | object =>
    rw [Enters, ← reads_skipKey_iff, Reads, enter]
    rcases skipKey s with f | r <;> simp [Except.map, Taken.pair]

theorem peeks_enters (frame : Frame) : Peeks (Enters frame) := by
  cases frame with
  | list => exact fun s rest h => ⟨[], h, fun behind _ => rfl⟩
  | object => exact closes_skippedKey.peeks

/-! ### Brackets -/

/-- **What follows inside the open brackets**: the brackets, whether the part before is complete, and
the brackets that are left open. -/
inductive Settles : List Frame → Bool → List Frame → Bytes → Bytes → Prop
  | done {complete : Bool} (s : Bytes) : Settles [] complete [] s s
  /-- Behind a comma there is a next part. -/
  | comma {frame : Frame} {stack : List Frame} {s rest : Bytes}
    (this : Comp (Mark 0x2C) (Enters frame) s rest) :
    Settles (frame :: stack) true (frame :: stack) s rest
  | close {frame : Frame} {stack left : List Frame} {complete : Bool} {s u rest : Bytes}
    (this : Mark frame.closer s u) (others : Settles stack true left u rest) :
    Settles (frame :: stack) complete left s rest
  /-- The bracket has just been opened, and there is a first part. -/
  | first {frame : Frame} {stack : List Frame} {s rest : Bytes}
    (this : Comp (SkipsTo (· ≠ frame.closer)) (Enters frame) s rest) :
    Settles (frame :: stack) false (frame :: stack) s rest

theorem peeks_settles (stack : List Frame) (complete : Bool) (left : List Frame) :
    Peeks (Settles stack complete left) := by
  intro s rest h
  induction h with
  | done s => exact ⟨[], rfl, fun behind _ => .done behind⟩
  | comma this =>
    exact ((closes_mark _).peeks.comp (peeks_enters _) _ _ this).mono fun _ _ => .comma
  | close this _ ih =>
    refine ((closes_mark _ _ _ this).peeksAt.comp ih).mono ?_
    rintro s rest ⟨u, hu, hrest⟩
    exact .close hu hrest
  | first this =>
    exact ((peeks_skipsTo _).comp (peeks_enters _) _ _ this).mono fun _ _ => .first

theorem not_settles_of_nil {frame : Frame} {stack left : List Frame} {complete : Bool}
    {s rest : Bytes} (h : skipBlanks s = []) : ¬ Settles (frame :: stack) complete left s rest := by
  rintro (_ | ⟨u, hu, -⟩ | ⟨hu, -⟩ | ⟨u, hu, -⟩)
  · exact not_mark_of_nil h hu
  · exact not_mark_of_nil h hu
  · exact not_skipsTo_of_nil h hu

theorem settles_iff_of_cons {frame : Frame} {stack left : List Frame} {complete : Bool}
    {s t rest : Bytes} {b : UInt8} (h : skipBlanks s = b :: t) :
    Settles (frame :: stack) complete left s rest ↔
      if complete = true ∧ b = 0x2C then left = frame :: stack ∧ Enters frame t rest
      else if b = frame.closer then Settles stack true left t rest
      else complete = false ∧ left = frame :: stack ∧ Enters frame (b :: t) rest := by
  have hcloser : frame.closer ≠ 0x2C := by cases frame <;> decide
  constructor
  · rintro (_ | ⟨u, hu, henters⟩ | ⟨hu, others⟩ | ⟨u, hu, henters⟩)
    · obtain ⟨rfl, rfl⟩ := (mark_iff_of_cons h).1 hu
      exact ⟨rfl, henters⟩
    · obtain ⟨rfl, rfl⟩ := (mark_iff_of_cons h).1 hu
      rw [if_neg fun hcomma => hcloser hcomma.2, if_pos rfl]
      exact others
    · obtain ⟨hne, rfl⟩ := (skipsTo_iff_of_cons h).1 hu
      rw [if_neg fun hcomma => Bool.false_ne_true hcomma.1, if_neg hne]
      exact ⟨rfl, rfl, henters⟩
  · split
    · next hcomma =>
      obtain ⟨rfl, rfl⟩ := hcomma
      rintro ⟨rfl, henters⟩
      exact .comma ⟨t, h, henters⟩
    split
    · next hclose =>
      rintro others
      exact .close (hclose ▸ h) others
    · next hclose =>
      rintro ⟨rfl, rfl, henters⟩
      exact .first ⟨_, (skipsTo_iff_of_cons h).2 ⟨hclose, rfl⟩, henters⟩

theorem settle_eq_ok_iff {stack left : List Frame} {complete : Bool} {s rest : Bytes} :
    (settle stack complete s).map (fun p => (p.1, p.2.1)) = .ok (left, rest) ↔
      Settles stack complete left s rest := by
  induction stack generalizing complete s with
  | nil =>
    simp only [settle, Suffix.whole, Except.map, Except.ok.injEq, Prod.mk.injEq]
    constructor
    · rintro ⟨rfl, rfl⟩
      exact .done s
    · rintro ⟨⟩
      exact ⟨rfl, rfl⟩
  | cons frame stack ih =>
    rw [settle]
    split
    · next h => simp [not_settles_of_nil h, Except.map]
    next b t h =>
    simp only [settles_iff_of_cons h, ← enter_eq_ok_iff, ← ih, Bool.and_eq_true, beq_iff_eq]
    split
    · rcases enter frame t with f | u <;> simp [Except.map, eq_comm]
    split
    · rcases settle stack true t with f | ⟨left', u⟩ <;> simp [Except.map]
    split
    · next hcomplete => simp [hcomplete, Except.map]
    · next hcomplete =>
      rcases enter frame (b :: t) with f | u <;> simp [hcomplete, Except.map, eq_comm]

/-! ### Values -/

/-- **One word, number or string, or one opening bracket.** -/
inductive Token : Option Frame → Bytes → Bytes → Prop
  | null {s rest : Bytes} (this : Comp (Mark 0x6E) (Literal [0x75, 0x6C, 0x6C]) s rest) :
    Token none s rest
  | true {s rest : Bytes} (this : Comp (Mark 0x74) (Literal [0x72, 0x75, 0x65]) s rest) :
    Token none s rest
  | false {s rest : Bytes} (this : Comp (Mark 0x66) (Literal [0x61, 0x6C, 0x73, 0x65]) s rest) :
    Token none s rest
  | string {s rest : Bytes} (this : Comp (Mark 0x22) SkippedString s rest) : Token none s rest
  | number {n : Spelling} {s rest : Bytes}
    (this : Comp (SkipsTo fun b => b = 0x2D ∨ isDigit b = Bool.true) (Spelled n) s rest) :
    Token none s rest
  | list {s rest : Bytes} (this : Mark 0x5B s rest) : Token (some .list) s rest
  | object {s rest : Bytes} (this : Mark 0x7B s rest) : Token (some .object) s rest

theorem peeks_token (frame : Option Frame) : Peeks (Token frame) := by
  rintro s rest (h | h | h | h | h | h | h)
  · exact ((closes_mark _).comp_closes (closes_literal _ _) _ _ h).peeksAt.mono fun _ _ => .null
  · exact ((closes_mark _).comp_closes (closes_literal _ _) _ _ h).peeksAt.mono fun _ _ => .true
  · exact ((closes_mark _).comp_closes (closes_literal _ _) _ _ h).peeksAt.mono fun _ _ => .false
  · exact ((closes_mark _).comp_closes closes_skippedString _ _ h).peeksAt.mono fun _ _ => .string
  · exact ((peeks_skipsTo _).comp (peeks_spelled _) _ _ h).mono fun _ _ => .number
  · exact (closes_mark _ _ _ h).peeksAt.mono fun _ _ => .list
  · exact (closes_mark _ _ _ h).peeksAt.mono fun _ _ => .object

theorem not_token_of_nil {frame : Option Frame} {s rest : Bytes} (h : skipBlanks s = []) :
    ¬ Token frame s rest := by
  rintro (⟨u, hu, -⟩ | ⟨u, hu, -⟩ | ⟨u, hu, -⟩ | ⟨u, hu, -⟩ | ⟨u, hu, -⟩ | hu | hu)
  · exact not_mark_of_nil h hu
  · exact not_mark_of_nil h hu
  · exact not_mark_of_nil h hu
  · exact not_mark_of_nil h hu
  · exact not_skipsTo_of_nil h hu
  · exact not_mark_of_nil h hu
  · exact not_mark_of_nil h hu

/-- The first byte of a token tells its kind. -/
theorem token_iff_of_cons {frame : Option Frame} {s t rest : Bytes} {b : UInt8}
    (h : skipBlanks s = b :: t) :
    Token frame s rest ↔
      if b = 0x6E then frame = none ∧ Literal [0x75, 0x6C, 0x6C] t rest
      else if b = 0x74 then frame = none ∧ Literal [0x72, 0x75, 0x65] t rest
      else if b = 0x66 then frame = none ∧ Literal [0x61, 0x6C, 0x73, 0x65] t rest
      else if b = 0x22 then frame = none ∧ SkippedString t rest
      else if b = 0x5B then frame = some .list ∧ t = rest
      else if b = 0x7B then frame = some .object ∧ t = rest
      else (b = 0x2D ∨ isDigit b = true) ∧ frame = none ∧ ∃ n, Spelled n (b :: t) rest := by
  constructor
  · rintro (⟨u, hu, this⟩ | ⟨u, hu, this⟩ | ⟨u, hu, this⟩ | ⟨u, hu, this⟩ | ⟨u, hu, this⟩ | hu | hu)
    · obtain ⟨rfl, rfl⟩ := (mark_iff_of_cons h).1 hu
      exact ⟨rfl, this⟩
    · obtain ⟨rfl, rfl⟩ := (mark_iff_of_cons h).1 hu
      exact ⟨rfl, this⟩
    · obtain ⟨rfl, rfl⟩ := (mark_iff_of_cons h).1 hu
      exact ⟨rfl, this⟩
    · obtain ⟨rfl, rfl⟩ := (mark_iff_of_cons h).1 hu
      exact ⟨rfl, this⟩
    · obtain ⟨hb, rfl⟩ := (skipsTo_iff_of_cons h).1 hu
      -- a number starts with none of the bytes that are asked for before it
      have hne : ∀ c : UInt8, ¬ (c = 0x2D ∨ isDigit c = true) → b ≠ c := fun c hc hbc =>
        hc (hbc ▸ hb)
      rw [if_neg (hne _ (by decide)), if_neg (hne _ (by decide)), if_neg (hne _ (by decide)),
        if_neg (hne _ (by decide)), if_neg (hne _ (by decide)), if_neg (hne _ (by decide))]
      exact ⟨hb, rfl, _, this⟩
    · obtain ⟨rfl, rfl⟩ := (mark_iff_of_cons h).1 hu
      exact ⟨rfl, rfl⟩
    · obtain ⟨rfl, rfl⟩ := (mark_iff_of_cons h).1 hu
      exact ⟨rfl, rfl⟩
  · split
    · next hb =>
      rintro ⟨rfl, this⟩
      exact .null ⟨t, hb ▸ h, this⟩
    split
    · next hb =>
      rintro ⟨rfl, this⟩
      exact .true ⟨t, hb ▸ h, this⟩
    split
    · next hb =>
      rintro ⟨rfl, this⟩
      exact .false ⟨t, hb ▸ h, this⟩
    split
    · next hb =>
      rintro ⟨rfl, this⟩
      exact .string ⟨t, hb ▸ h, this⟩
    split
    · next hb =>
      rintro ⟨rfl, rfl⟩
      exact .list (hb ▸ h)
    split
    · next hb =>
      rintro ⟨rfl, rfl⟩
      exact .object (hb ▸ h)
    · rintro ⟨hb, rfl, n, this⟩
      exact .number ⟨_, (skipsTo_iff_of_cons h).2 ⟨hb, rfl⟩, this⟩

theorem reads_skipToken_iff {frame : Option Frame} {s rest : Bytes} :
    Reads skipToken frame s rest ↔ Token frame s rest := by
  unfold Reads skipToken
  split
  · next h => simp [not_token_of_nil h, Except.map]
  next b t h =>
  simp only [token_iff_of_cons h, ← readWord_eq_ok_iff, ← reads_skipString_iff,
    ← reads_skipNumber_iff]
  split
  · rcases readWord [0x75, 0x6C, 0x6C] t with f | u <;> simp [Except.map, Taken.pair, eq_comm]
  split
  · rcases readWord [0x72, 0x75, 0x65] t with f | u <;> simp [Except.map, Taken.pair, eq_comm]
  split
  · rcases readWord [0x61, 0x6C, 0x73, 0x65] t with f | u <;>
      simp [Except.map, Taken.pair, eq_comm]
  split
  · unfold Reads
    rcases skipString t with f | r <;> simp [Except.map, Taken.pair, Taken.map, Taken.lift, eq_comm]
  split
  · simp [Except.map, Taken.pair, eq_comm]
  split
  · simp [Except.map, Taken.pair, eq_comm]
  simp only [Bool.or_eq_true, decide_eq_true_eq]
  split
  · next hb =>
    simp only [hb, true_and]
    unfold Reads
    rcases skipNumber (b :: t) with f | r <;>
      simp [Except.map, Taken.pair, Taken.map, Taken.lift, eq_comm]
  · next hb =>
    simp only [hb, false_and, Except.map, reduceCtorEq]

/-- **A value that is skipped**, and the rest of the open brackets around it. -/
inductive Skipped : List Frame → Bytes → Bytes → Prop
  | done {stack : List Frame} {frame : Option Frame} {s u rest : Bytes} (token : Token frame s u)
    (settled : Settles (frame.toList ++ stack) frame.isNone [] u rest) : Skipped stack s rest
  | more {stack left : List Frame} {frame : Option Frame} {s u v rest : Bytes}
    (token : Token frame s u) (settled : Settles (frame.toList ++ stack) frame.isNone left u v)
    (some_left : left ≠ []) (others : Skipped left v rest) : Skipped stack s rest

/-- A value that is skipped does not close: it may be a number. -/
theorem peeks_skipped (stack : List Frame) : Peeks (Skipped stack) := by
  intro s rest h
  induction h with
  | done token settled =>
    refine ((peeks_token _ _ _ token).comp (peeks_settles _ _ _ _ _ settled)).mono ?_
    rintro s rest ⟨u, hu, hrest⟩
    exact .done hu hrest
  | more token settled some_left _ ih =>
    refine ((peeks_token _ _ _ token).comp ((peeks_settles _ _ _ _ _ settled).comp ih)).mono ?_
    rintro s rest ⟨u, hu, v, hv, hrest⟩
    exact .more hu hv some_left hrest

theorem not_skipped_of_error {stack : List Frame} {s rest : Bytes} {f : Fault}
    (h : skipToken s = .error f) : ¬ Skipped stack s rest := by
  rintro (⟨token, -⟩ | ⟨token, -, -, -⟩)
  · exact not_reads_of_error h (reads_skipToken_iff.2 token)
  · exact not_reads_of_error h (reads_skipToken_iff.2 token)

/-- A value goes on behind its first token as the open brackets say. -/
theorem skipped_iff_of_ok {stack : List Frame} {s rest : Bytes} {r : Taken (Option Frame) s}
    (h : skipToken s = .ok r) :
    Skipped stack s rest ↔
      ∃ left v, Settles (r.value.toList ++ stack) r.value.isNone left r.rest v ∧
        (left = [] ∧ v = rest ∨ left ≠ [] ∧ Skipped left v rest) := by
  have htoken : ∀ frame u, Token frame s u ↔ r.value = frame ∧ r.rest = u := fun frame u =>
    reads_skipToken_iff.symm.trans (reads_iff_of_ok h)
  constructor
  · rintro (⟨token, settled⟩ | ⟨token, settled, some_left, others⟩)
    · obtain ⟨rfl, rfl⟩ := (htoken _ _).1 token
      exact ⟨[], _, settled, .inl ⟨rfl, rfl⟩⟩
    · obtain ⟨rfl, rfl⟩ := (htoken _ _).1 token
      exact ⟨_, _, settled, .inr ⟨some_left, others⟩⟩
  · rintro ⟨left, v, settled, ⟨rfl, rfl⟩ | ⟨some_left, others⟩⟩
    · exact .done ((htoken _ _).2 ⟨rfl, rfl⟩) settled
    · exact .more ((htoken _ _).2 ⟨rfl, rfl⟩) settled some_left others

theorem skipValue_go_iff {s t rest : Bytes} {stack : List Frame} {h : t.length ≤ s.length} :
    (skipValue.go s stack t h).map Taken.pair = .ok ((), rest) ↔ Skipped stack t rest := by
  fun_induction skipValue.go s stack t h with
  | case1 stack t h f htoken => simp [not_skipped_of_error htoken, Except.map]
  | case2 stack t h r htoken hlt f hsettle =>
    rw [skipped_iff_of_ok htoken]
    simp [← settle_eq_ok_iff, hsettle, Except.map]
  | case3 stack t h r htoken hlt u hsettle =>
    rw [skipped_iff_of_ok htoken]
    simp only [← settle_eq_ok_iff, hsettle, Except.map, Taken.pair, Except.ok.injEq,
      Prod.mk.injEq, true_and]
    constructor
    · rintro rfl
      exact ⟨_, _, ⟨rfl, rfl⟩, .inl ⟨rfl, rfl⟩⟩
    · rintro ⟨_, _, ⟨rfl, rfl⟩, ⟨-, rfl⟩ | ⟨some_left, -⟩⟩
      · rfl
      · exact absurd rfl some_left
  | case4 stack t h r htoken hlt left u some_left hsettle hle ih =>
    rw [ih, skipped_iff_of_ok htoken]
    simp only [← settle_eq_ok_iff, hsettle, Except.map, Except.ok.injEq, Prod.mk.injEq]
    constructor
    · intro others
      exact ⟨_, _, ⟨rfl, rfl⟩, .inr ⟨some_left, others⟩⟩
    · rintro ⟨_, _, ⟨rfl, rfl⟩, ⟨hnil, -⟩ | ⟨-, others⟩⟩
      · exact absurd hnil some_left
      · exact others

theorem reads_skipValue_iff {s rest : Bytes} : Reads skipValue () s rest ↔ Skipped [] s rest := by
  rw [Reads, skipValue, skipValue_go_iff]

end CommitGate.Json
