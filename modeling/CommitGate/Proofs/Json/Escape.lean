import CommitGate.Json.Escape
import CommitGate.Proofs.Json.Reader

/-!
# What the readers of strings take

A string is a chain of steps up to its closing quote (`Quoted`): an escape, or a byte that stands for
itself. One that is read has its escapes undone (`Escape`), one that is skipped has them looked at
(`SkippedEscape`). The closing quote shows where both of them end.
-/

namespace CommitGate.Json

open Relation (Comp)

/-! ### Escapes -/

/-- Four hexadecimal digits with the value `n`. -/
def Hex4 (n : Nat) (s rest : Bytes) : Prop :=
  ∃ a b c d w x y z, (hexValue? a = some w ∧ hexValue? b = some x ∧ hexValue? c = some y ∧
    hexValue? d = some z ∧ n = ((w * 16 + x) * 16 + y) * 16 + z) ∧ Literal [a, b, c, d] s rest

theorem closes_hex4 (n : Nat) : Closes (Hex4 n) := by
  rintro s rest ⟨a, b, c, d, w, x, y, z, hvalue, hs⟩
  exact (closes_literal _ _ _ _ hs).mono fun _ _ h => ⟨a, b, c, d, w, x, y, z, hvalue, h⟩

theorem reads_readHex4_iff {n : Nat} {s rest : Bytes} :
    Reads readHex4 n s rest ↔ Hex4 n s rest := by
  unfold Reads readHex4 Hex4 Literal
  split
  · next a b c d u =>
    split
    · next w x y z ha hb hc hd =>
      simp only [Except.map, Taken.pair, Except.ok.injEq, Prod.mk.injEq]
      constructor
      · rintro ⟨rfl, rfl⟩
        exact ⟨a, b, c, d, w, x, y, z, ⟨ha, hb, hc, hd, rfl⟩, rfl⟩
      · rintro ⟨_, _, _, _, w', x', y', z', ⟨ha', hb', hc', hd', rfl⟩, hs⟩
        simp only [List.cons_append, List.nil_append, List.cons.injEq] at hs
        obtain ⟨rfl, rfl, rfl, rfl, rfl⟩ := hs
        simp_all
    · next hnot =>
      simp only [Except.map, reduceCtorEq, false_iff]
      rintro ⟨_, _, _, _, w, x, y, z, ⟨ha, hb, hc, hd, -⟩, hs⟩
      simp only [List.cons_append, List.nil_append, List.cons.injEq] at hs
      obtain ⟨rfl, rfl, rfl, rfl, rfl⟩ := hs
      exact hnot w x y z ha hb hc hd
  · next hnot =>
    simp only [Except.map, reduceCtorEq, false_iff]
    rintro ⟨a, b, c, d, w, x, y, z, -, rfl⟩
    exact hnot a b c d rest rfl

/-- The second half of a pair, in an escape of its own. -/
def SecondHalf (n : Nat) : Bytes → Bytes → Prop := Comp (Literal [0x5C, 0x75]) (Hex4 n)

theorem closes_secondHalf (n : Nat) : Closes (SecondHalf n) :=
  (closes_literal _ _).comp_closes (closes_hex4 n)

theorem reads_readSecondHalf_iff {n : Nat} {s rest : Bytes} :
    Reads readSecondHalf n s rest ↔ SecondHalf n s rest := by
  unfold SecondHalf Comp Literal
  rcases s with _ | ⟨b, _ | ⟨c, u⟩⟩
  · simp [Reads, readSecondHalf, Except.map]
  · simp only [Reads, readSecondHalf]
    split <;> simp [Except.map]
  · simp only [Reads, readSecondHalf, List.cons_append, List.nil_append, List.cons.injEq]
    split
    · next hb =>
      split
      · next hc =>
        simp only [hb, hc, true_and, exists_eq_left', ← reads_readHex4_iff]
        rcases hr : readHex4 u with f | r
        · simp [not_reads_of_error hr, Except.map]
        · simp [reads_iff_of_ok hr, Except.map, Taken.pair, Taken.lift]
      · next hc => simp [hc, Except.map]
    · next hb => simp [hb, Except.map]

/-- The number is the first half of a pair. -/
def IsFirstHalf (n : Nat) : Prop := 0xD800 ≤ n ∧ n ≤ 0xDBFF

/-- The number is the second half of a pair. -/
def IsSecondHalf (n : Nat) : Prop := 0xDC00 ≤ n ∧ n ≤ 0xDFFF

/-- The code of a character: a number that is no half of a pair, or a pair. -/
def Code (c : Char) (s rest : Bytes) : Prop :=
  (∃ n, (¬ IsSecondHalf n ∧ ¬ IsFirstHalf n ∧ c = Char.ofNat n) ∧ Hex4 n s rest) ∨
    ∃ n m, (IsFirstHalf n ∧ IsSecondHalf m ∧
      c = Char.ofNat (0x10000 + (n - 0xD800) * 0x400 + (m - 0xDC00))) ∧
      Comp (Hex4 n) (SecondHalf m) s rest

theorem reads_readCode_iff {c : Char} {s rest : Bytes} :
    Reads readCode c s rest ↔ Code c s rest := by
  unfold Reads readCode Code Comp
  rcases hr : readHex4 s with f | r
  · simp [← reads_readHex4_iff, not_reads_of_error hr, Except.map]
  simp only [← reads_readHex4_iff, reads_iff_of_ok hr]
  split
  · next hsecond =>
    simp only [Except.map, reduceCtorEq, false_iff, not_or]
    refine ⟨?_, ?_⟩
    · rintro ⟨_, ⟨hnot, -⟩, rfl, -⟩
      exact hnot hsecond
    · rintro ⟨_, _, ⟨hfirst, -⟩, _, ⟨rfl, -⟩, -⟩
      unfold IsFirstHalf at hfirst
      omega
  next hsecond =>
  split
  · next hfirst =>
    have hno : ¬ ∃ n, (¬ IsSecondHalf n ∧ ¬ IsFirstHalf n ∧ c = Char.ofNat n) ∧
        r.value = n ∧ r.rest = rest := by
      rintro ⟨_, ⟨-, hnot, -⟩, rfl, -⟩
      exact hnot hfirst
    simp only [hno, false_or, ← reads_readSecondHalf_iff]
    rcases hr' : readSecondHalf r.rest with f | r'
    · simp only [Except.map, reduceCtorEq, false_iff]
      rintro ⟨_, _, -, _, ⟨-, rfl⟩, hm⟩
      exact not_reads_of_error hr' hm
    · dsimp only
      split
      · next hm =>
        simp only [Except.map, Taken.pair, Except.ok.injEq, Prod.mk.injEq]
        constructor
        · rintro ⟨rfl, rfl⟩
          exact ⟨_, _, ⟨hfirst, hm, rfl⟩, _, ⟨rfl, rfl⟩, (reads_iff_of_ok hr').2 ⟨rfl, rfl⟩⟩
        · rintro ⟨_, _, ⟨-, -, hc⟩, _, ⟨rfl, rfl⟩, hm'⟩
          obtain ⟨rfl, rfl⟩ := (reads_iff_of_ok hr').1 hm'
          exact ⟨hc.symm, rfl⟩
      · next hm =>
        simp only [Except.map, reduceCtorEq, false_iff]
        rintro ⟨_, _, ⟨-, hsnd, -⟩, _, ⟨-, rfl⟩, hm'⟩
        obtain ⟨rfl, -⟩ := (reads_iff_of_ok hr').1 hm'
        exact hm hsnd
  · next hfirst =>
    simp only [Except.map, Taken.pair, Taken.map, Except.ok.injEq, Prod.mk.injEq]
    constructor
    · rintro ⟨rfl, rfl⟩
      exact .inl ⟨_, ⟨hsecond, hfirst, rfl⟩, rfl, rfl⟩
    · rintro (⟨_, ⟨-, -, rfl⟩, rfl, rfl⟩ | ⟨_, _, ⟨hfst, -⟩, _, ⟨rfl, -⟩, -⟩)
      · exact ⟨rfl, rfl⟩
      · exact absurd hfst hfirst

theorem closes_code (c : Char) : Closes (Code c) := by
  rintro s rest (⟨n, hn, h⟩ | ⟨n, m, hnm, h⟩)
  · exact (closes_hex4 n _ _ h).mono fun _ _ h => .inl ⟨n, hn, h⟩
  · have hclose := (closes_hex4 n).comp_closes (closes_secondHalf m)
    exact (hclose _ _ h).mono fun _ _ h => .inr ⟨n, m, hnm, h⟩

/-- What an escape stands for, behind its backslash: a letter's byte, or a character by its code. -/
def Escape (bytes : Bytes) (s rest : Bytes) : Prop :=
  (∃ b c, (letterByte? b = some c ∧ bytes = [c]) ∧ Literal [b] s rest) ∨
    ∃ c, bytes = String.utf8EncodeChar c ∧ Comp (Literal [0x75]) (Code c) s rest

theorem not_escape_nil {bytes rest : Bytes} : ¬ Escape bytes [] rest := by
  rintro (⟨b, c, -, h⟩ | ⟨c, -, u, h, -⟩)
  · cases h
  · cases h

theorem escape_cons_iff {bytes u rest : Bytes} {b : UInt8} :
    Escape bytes (b :: u) rest ↔
      (∃ c, letterByte? b = some c ∧ bytes = [c] ∧ u = rest) ∨
        b = 0x75 ∧ ∃ c, bytes = String.utf8EncodeChar c ∧ Code c u rest := by
  constructor
  · rintro (⟨_, c, ⟨hc, rfl⟩, h⟩ | ⟨c, rfl, v, h, hcode⟩)
    · cases h
      exact .inl ⟨c, hc, rfl, rfl⟩
    · cases h
      exact .inr ⟨rfl, c, rfl, hcode⟩
  · rintro (⟨c, hc, rfl, rfl⟩ | ⟨rfl, c, rfl, hcode⟩)
    · exact .inl ⟨b, c, ⟨hc, rfl⟩, rfl⟩
    · exact .inr ⟨c, rfl, u, rfl, hcode⟩

theorem reads_readEscape_iff {bytes s rest : Bytes} :
    Reads readEscape bytes s rest ↔ Escape bytes s rest := by
  rcases s with _ | ⟨b, u⟩
  · simp [Reads, readEscape, not_escape_nil, Except.map]
  simp only [Reads, readEscape, escape_cons_iff]
  split
  · next c hc =>
    have hu : b ≠ 0x75 := by
      rintro rfl
      simp [letterByte?] at hc
    simp [hu, hc, Except.map, Taken.pair, eq_comm]
  next hc =>
  split
  · next hu =>
    simp only [hu, true_and, ← reads_readCode_iff]
    rw [hu] at hc
    rcases hr : readCode u with f | r
    · simp [not_reads_of_error hr, hc, Except.map]
    · simp only [reads_iff_of_ok hr, hc, Except.map, Taken.pair, Taken.lift, Taken.map,
        Except.ok.injEq, Prod.mk.injEq, reduceCtorEq, false_and, exists_const, false_or]
      constructor
      · rintro ⟨rfl, rfl⟩
        exact ⟨_, rfl, rfl, rfl⟩
      · rintro ⟨_, rfl, rfl, rfl⟩
        exact ⟨rfl, rfl⟩
  · next hu => simp [hu, hc, Except.map]

theorem closes_escape (bytes : Bytes) : Closes (Escape bytes) := by
  rintro s rest (⟨b, c, hc, h⟩ | ⟨c, hc, h⟩)
  · exact (closes_literal _ _ _ _ h).mono fun _ _ h => .inl ⟨b, c, hc, h⟩
  · have hclose := (closes_literal 0x75 []).comp_closes (closes_code c)
    exact (hclose _ _ h).mono fun _ _ h => .inr ⟨c, hc, h⟩

/-! ### Strings -/

section Quoted

variable {escape : Bytes → Bytes → Bytes → Prop}

/-- **A string behind its opening quote**, with the bytes it stands for, and the closing quote.
Escapes are as `escape` says. -/
inductive Quoted (escape : Bytes → Bytes → Bytes → Prop) : Bytes → Bytes → Bytes → Prop
  | close {s rest : Bytes} (quote : Literal [0x22] s rest) : Quoted escape [] s rest
  /-- An escape, with what it stands for. -/
  | escape {bytes out s v rest : Bytes} (this : Comp (Literal [0x5C]) (escape bytes) s v)
    (others : Quoted escape out v rest) : Quoted escape (bytes ++ out) s rest
  /-- A byte that stands for itself. -/
  | plain {b : UInt8} {out s v rest : Bytes} (quote : b ≠ 0x22) (backslash : b ≠ 0x5C)
    (control : ¬ b < 0x20) (this : Literal [b] s v) (others : Quoted escape out v rest) :
    Quoted escape (b :: out) s rest

theorem closes_quoted (hescape : ∀ bytes, Closes (escape bytes)) (out : Bytes) :
    Closes (Quoted escape out) := by
  intro s rest h
  induction h with
  | close quote => exact (closes_literal _ _ _ _ quote).mono fun _ _ => .close
  | escape this _ ih =>
    have hthis := ((closes_literal _ _).comp_closes (hescape _)) _ _ this
    refine (hthis.peeksAt.comp_closesAt ih).mono ?_
    rintro s rest ⟨v, hv, hrest⟩
    exact .escape hv hrest
  | plain quote backslash control this _ ih =>
    refine ((closes_literal _ _ _ _ this).peeksAt.comp_closesAt ih).mono ?_
    rintro s rest ⟨v, hv, hrest⟩
    exact .plain quote backslash control hv hrest

theorem not_quoted_nil {out rest : Bytes} : ¬ Quoted escape out [] rest := by
  rintro (quote | ⟨⟨u, slash, -⟩, -⟩ | ⟨-, -, -, this, -⟩)
  · cases quote
  · cases slash
  · cases this

/-- The first byte of a string tells how it goes on. -/
theorem quoted_cons_iff {b : UInt8} {out t rest : Bytes} :
    Quoted escape out (b :: t) rest ↔
      if b = 0x22 then out = [] ∧ t = rest
      else if b = 0x5C then ∃ bytes others v, out = bytes ++ others ∧ escape bytes t v ∧
        Quoted escape others v rest
      else ¬ b < 0x20 ∧ ∃ others, out = b :: others ∧ Quoted escape others t rest := by
  constructor
  · rintro (quote | ⟨⟨u, slash, hescape⟩, hothers⟩ | ⟨hquote, hslash, hcontrol, this, hothers⟩)
    · cases quote
      exact ⟨rfl, rfl⟩
    · cases slash
      exact ⟨_, _, _, rfl, hescape, hothers⟩
    · cases this
      rw [if_neg hquote, if_neg hslash]
      exact ⟨hcontrol, _, rfl, hothers⟩
  · split
    · next hquote =>
      rintro ⟨rfl, rfl⟩
      exact .close (by rw [hquote]; rfl)
    split
    · next hslash =>
      rintro ⟨bytes, others, v, rfl, hescape, hothers⟩
      exact .escape ⟨t, by rw [hslash]; rfl, hescape⟩ hothers
    · next hquote hslash =>
      rintro ⟨hcontrol, others, rfl, hothers⟩
      exact .plain hquote hslash hcontrol rfl hothers

end Quoted

/-- The bytes that a string spells, its escapes undone. -/
abbrev Spells : Bytes → Bytes → Bytes → Prop := Quoted Escape

theorem readStringBytes_go_iff {s acc t out rest : Bytes} {h : t.length ≤ s.length} :
    (readStringBytes.go s acc t h).map Taken.pair = .ok (out, rest) ↔
      ∃ others, out = acc.reverse ++ others ∧ Spells others t rest := by
  fun_induction readStringBytes.go s acc t h with
  | case1 acc h => simp [not_quoted_nil, Except.map]
  | case2 acc u h =>
    simp only [quoted_cons_iff, if_true, Except.map, Taken.pair, Except.ok.injEq, Prod.mk.injEq]
    constructor
    · rintro ⟨rfl, rfl⟩
      exact ⟨[], (List.append_nil _).symm, rfl, rfl⟩
    · rintro ⟨_, rfl, rfl, rfl⟩
      exact ⟨(List.append_nil _).symm, rfl⟩
  | case3 acc u f hescape =>
    simp [quoted_cons_iff, ← reads_readEscape_iff, not_reads_of_error hescape, Except.map]
  | case4 acc u r hescape hlt h hquote _ ih =>
    rw [ih]
    simp only [quoted_cons_iff, if_neg hquote, if_true, ← reads_readEscape_iff,
      reads_iff_of_ok hescape, List.reverse_append, List.reverse_reverse, List.append_assoc]
    constructor
    · rintro ⟨others, rfl, hothers⟩
      exact ⟨_, rfl, _, _, _, rfl, ⟨rfl, rfl⟩, hothers⟩
    · rintro ⟨_, rfl, _, others, _, rfl, ⟨rfl, rfl⟩, hothers⟩
      exact ⟨others, rfl, hothers⟩
  | case5 acc b u h hquote hslash hcontrol =>
    simp [quoted_cons_iff, hquote, hslash, hcontrol, Except.map]
  | case6 acc b u h hquote hslash hcontrol _ ih =>
    rw [ih]
    simp only [quoted_cons_iff, if_neg hquote, if_neg hslash, hcontrol, not_false_eq_true, true_and,
      List.reverse_cons, List.append_assoc, List.singleton_append]
    constructor
    · rintro ⟨others, rfl, hothers⟩
      exact ⟨_, rfl, others, rfl, hothers⟩
    · rintro ⟨_, rfl, others, rfl, hothers⟩
      exact ⟨others, rfl, hothers⟩

/-- **A string is read as what its bytes spell**, if that is text. -/
theorem reads_readString_iff {text : String} {s rest : Bytes} :
    Reads readString text s rest ↔
      ∃ out chars, (Text.ofBytes out = (chars, []) ∧ text = String.ofList chars) ∧
        Spells out s rest := by
  have hbytes : ∀ out rest, Reads readStringBytes out s rest ↔ Spells out s rest := by
    intro out rest
    rw [Reads, readStringBytes, readStringBytes_go_iff]
    simp
  simp only [← hbytes, Reads, readString]
  rcases hr : readStringBytes s with f | r
  · simp [Except.map]
  · rcases ht : Text.ofBytes r.value with ⟨chars, _ | ⟨b, bad⟩⟩
    · simp only [ht, Except.map, Taken.pair, Taken.map, Except.ok.injEq, Prod.mk.injEq]
      constructor
      · rintro ⟨rfl, rfl⟩
        exact ⟨_, _, ⟨ht, rfl⟩, rfl, rfl⟩
      · rintro ⟨_, _, ⟨ht', rfl⟩, rfl, rfl⟩
        cases ht.symm.trans ht'
        exact ⟨rfl, rfl⟩
    · simp only [ht, Except.map, Taken.pair, Except.ok.injEq, Prod.mk.injEq, reduceCtorEq, false_iff]
      rintro ⟨_, _, ⟨ht', -⟩, rfl, -⟩
      cases ht.symm.trans ht'

theorem closes_readString (text : String) : Closes (Reads readString text) := by
  intro s rest h
  obtain ⟨out, chars, htext, hspells⟩ := reads_readString_iff.1 h
  exact (closes_quoted closes_escape out _ _ hspells).mono fun _ _ hs =>
    reads_readString_iff.2 ⟨out, chars, htext, hs⟩

/-! ### Strings that are skipped -/

/-- An escape that is skipped, behind its backslash: a letter, or the code of anything. -/
def SkippedEscape (s rest : Bytes) : Prop :=
  (∃ b, (letterByte? b).isSome = true ∧ Literal [b] s rest) ∨
    ∃ n, Comp (Literal [0x75]) (Hex4 n) s rest

theorem closes_skippedEscape : Closes SkippedEscape := by
  rintro s rest (⟨b, hb, h⟩ | ⟨n, h⟩)
  · exact (closes_literal _ _ _ _ h).mono fun _ _ h => .inl ⟨b, hb, h⟩
  · have hclose := (closes_literal 0x75 []).comp_closes (closes_hex4 n)
    exact (hclose _ _ h).mono fun _ _ h => .inr ⟨n, h⟩

theorem skippedEscape_cons_iff {b : UInt8} {u rest : Bytes} :
    SkippedEscape (b :: u) rest ↔
      ((letterByte? b).isSome = true ∧ u = rest) ∨ b = 0x75 ∧ ∃ n, Hex4 n u rest := by
  constructor
  · rintro (⟨_, hb, h⟩ | ⟨n, v, h, hn⟩)
    · cases h
      exact .inl ⟨hb, rfl⟩
    · cases h
      exact .inr ⟨rfl, n, hn⟩
  · rintro (⟨hb, rfl⟩ | ⟨rfl, n, hn⟩)
    · exact .inl ⟨b, hb, rfl⟩
    · exact .inr ⟨n, u, rfl, hn⟩

theorem reads_skipEscape_iff {s rest : Bytes} :
    Reads skipEscape () s rest ↔ SkippedEscape s rest := by
  rcases s with _ | ⟨b, u⟩
  · simp only [Reads, skipEscape, Except.map, reduceCtorEq, false_iff]
    rintro (⟨b, -, h⟩ | ⟨n, v, h, -⟩)
    · cases h
    · cases h
  simp only [Reads, skipEscape, skippedEscape_cons_iff]
  split
  · next hb =>
    have hu : b ≠ 0x75 := by
      rintro rfl
      simp [letterByte?] at hb
    simp [hb, hu, Except.map, Taken.pair]
  next hb =>
  split
  · next hu =>
    rw [hu] at hb
    simp only [hu, ← reads_readHex4_iff, true_and]
    rcases hr : readHex4 u with f | r
    · simp [not_reads_of_error hr, hb, Except.map]
    · simp [reads_iff_of_ok hr, hb, Except.map, Taken.pair, Taken.map, Taken.lift]
  · next hu => simp [hb, hu, Except.map]

/-- A string that is skipped, behind its opening quote: nobody asks what it stands for. -/
def SkippedString (s rest : Bytes) : Prop := ∃ out, Quoted (fun _ => SkippedEscape) out s rest

theorem closes_skippedString : Closes SkippedString :=
  .exists (closes_quoted fun _ => closes_skippedEscape)

theorem not_skippedString_nil {rest : Bytes} : ¬ SkippedString [] rest :=
  fun ⟨_, h⟩ => not_quoted_nil h

theorem skippedString_cons_iff {b : UInt8} {t rest : Bytes} :
    SkippedString (b :: t) rest ↔
      if b = 0x22 then t = rest
      else if b = 0x5C then ∃ v, SkippedEscape t v ∧ SkippedString v rest
      else ¬ b < 0x20 ∧ SkippedString t rest := by
  simp only [SkippedString, quoted_cons_iff]
  split
  · simp
  split
  · constructor
    · rintro ⟨_, bytes, out, v, rfl, hescape, hothers⟩
      exact ⟨v, hescape, out, hothers⟩
    · rintro ⟨v, hescape, out, hothers⟩
      exact ⟨_, [], out, v, rfl, hescape, hothers⟩
  · constructor
    · rintro ⟨_, hcontrol, out, rfl, hothers⟩
      exact ⟨hcontrol, out, hothers⟩
    · rintro ⟨hcontrol, out, hothers⟩
      exact ⟨_, hcontrol, out, rfl, hothers⟩

theorem skipString_go_iff {s t rest : Bytes} {h : t.length ≤ s.length} :
    (skipString.go s t h).map Taken.pair = .ok ((), rest) ↔ SkippedString t rest := by
  fun_induction skipString.go s t h with
  | case1 h => simp [not_skippedString_nil, Except.map]
  | case2 u h => simp [skippedString_cons_iff, Except.map, Taken.pair]
  | case3 u f hescape =>
    simp [skippedString_cons_iff, ← reads_skipEscape_iff, not_reads_of_error hescape, Except.map]
  | case4 u r hescape hlt h hquote _ ih =>
    rw [ih]
    simp [skippedString_cons_iff, ← reads_skipEscape_iff, reads_iff_of_ok hescape]
  | case5 b u h hquote hslash hcontrol =>
    simp [skippedString_cons_iff, hquote, hslash, hcontrol, Except.map]
  | case6 b u h hquote hslash hcontrol _ ih =>
    rw [ih]
    simp [skippedString_cons_iff, hquote, hslash, hcontrol]

theorem reads_skipString_iff {s rest : Bytes} :
    Reads skipString () s rest ↔ SkippedString s rest := by
  rw [Reads, skipString, skipString_go_iff]

end CommitGate.Json
