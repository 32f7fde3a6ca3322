import CommitGate.Proofs.Json.Grammar
import CommitGate.Proofs.Json.Numeral
import CommitGate.Proofs.Text.Utf8

/-!
# Numbers as they are written

The parts of a number are read just where they are written. Since a number does not show its end, it
is read up to its end only if what stands behind it could not go on with it (`Ends`).
-/

namespace CommitGate.Json

open Relation (Comp)
open Text (toBytes toBytes_append toBytes_cons toBytes_nil)

/-! ### Digits -/

theorem isDigit_iff_toNat {b : UInt8} : isDigit b = true ↔ 0x30 ≤ b.toNat ∧ b.toNat ≤ 0x39 := by
  simp [isDigit, UInt8.le_iff_toNat_le]

theorem isDigit_ofNat : ∀ n < 10, isDigit (UInt8.ofNat (n + 0x30)) = true := by decide

theorem charIsDigit_ofNat : ∀ n < 10, (Char.ofNat (n + 0x30)).isDigit = true ∧
    String.utf8EncodeChar (Char.ofNat (n + 0x30)) = [UInt8.ofNat (n + 0x30)] := by decide

theorem charIsDigit_iff_toNat {c : Char} : c.isDigit = true ↔ 0x30 ≤ c.toNat ∧ c.toNat ≤ 0x39 := by
  simp [Char.isDigit, UInt32.le_iff_toNat_le]

theorem encode_of_isDigit {c : Char} (h : c.isDigit = true) :
    ∃ b, String.utf8EncodeChar c = [b] ∧ isDigit b = true := by
  rw [charIsDigit_iff_toNat] at h
  refine ⟨_, Text.encode_of_lt (by omega), ?_⟩
  have hdigit := isDigit_ofNat (c.toNat - 0x30) (by omega)
  rwa [Nat.sub_add_cancel h.1] at hdigit

theorem exists_of_isDigit {b : UInt8} (h : isDigit b = true) :
    ∃ c : Char, c.isDigit = true ∧ String.utf8EncodeChar c = [b] := by
  rw [isDigit_iff_toNat] at h
  have hdigit := charIsDigit_ofNat (b.toNat - 0x30) (by omega)
  rw [Nat.sub_add_cancel h.1, UInt8.ofNat_toNat] at hdigit
  exact ⟨_, hdigit⟩

theorem isDigit_of_mem_toBytes {t : List Char} (h : ∀ c ∈ t, c.isDigit = true) :
    ∀ b ∈ toBytes t, isDigit b = true := by
  induction t with
  | nil => exact List.forall_mem_nil _
  | cons c t ih =>
    rw [List.forall_mem_cons] at h
    obtain ⟨b, hb, hdigit⟩ := encode_of_isDigit h.1
    rw [toBytes_cons, hb, List.singleton_append, List.forall_mem_cons]
    exact ⟨hdigit, ih h.2⟩

theorem exists_toBytes_of_isDigit {ds : Bytes} (h : ∀ b ∈ ds, isDigit b = true) :
    ∃ t, ds = toBytes t ∧ ∀ c ∈ t, c.isDigit = true := by
  induction ds with
  | nil => exact ⟨[], rfl, List.forall_mem_nil _⟩
  | cons b ds ih =>
    rw [List.forall_mem_cons] at h
    obtain ⟨c, hc, hb⟩ := exists_of_isDigit h.1
    obtain ⟨t, rfl, ht⟩ := ih h.2
    exact ⟨c :: t, by rw [toBytes_cons, hb]; rfl, List.forall_mem_cons.2 ⟨hc, ht⟩⟩

/-- The bytes start with no digit and with none of `marks`. -/
def Stops (marks : List UInt8) (s : Bytes) : Prop :=
  ∀ b, s.head? = some b → isDigit b = false ∧ b ∉ marks

theorem Stops.mono {marks marks' : List UInt8} {s : Bytes} (h : Stops marks s)
    (hsub : ∀ b ∈ marks', b ∈ marks) : Stops marks' s := fun b hb =>
  ⟨(h b hb).1, fun hmem => (h b hb).2 (hsub b hmem)⟩

theorem Stops.without {marks : List UInt8} {s : Bytes} (h : Stops marks s) :
    Without marks s s := ⟨rfl, fun b hb hs => (h b hs).2 hb⟩

theorem digits_append {ds rest : Bytes} (hds : ∀ b ∈ ds, isDigit b = true)
    (hrest : Stops [] rest) : Digits ds (ds ++ rest) rest := by
  have hstop : rest.takeWhile isDigit = [] ∧ rest.dropWhile isDigit = rest := by
    rcases rest with _ | ⟨b, t⟩
    · exact ⟨rfl, rfl⟩
    · have hb : isDigit b = false := (hrest b rfl).1
      simp [hb]
  rw [Digits, digitsOf, skipDigits, List.takeWhile_append_of_pos hds,
    List.dropWhile_append_of_pos hds, hstop.1, hstop.2, List.append_nil]
  exact ⟨rfl, rfl⟩

theorem eq_append_of_digits {ds s rest : Bytes} (h : Digits ds s rest) :
    s = ds ++ rest ∧ ∀ b ∈ ds, isDigit b = true := by
  obtain ⟨rfl, rfl⟩ := h
  exact ⟨List.takeWhile_append_dropWhile.symm, fun b hb => List.mem_takeWhile_imp hb⟩

theorem someDigits_of_run {t : List Char} (h : DigitRun t) {rest : Bytes} (hrest : Stops [] rest) :
    SomeDigits (toBytes t) (toBytes t ++ rest) rest := by
  obtain ⟨hne, hdigits⟩ := h
  obtain ⟨c, t, rfl⟩ := List.exists_cons_of_ne_nil hne
  rw [List.forall_mem_cons] at hdigits
  obtain ⟨b, hb, hdigit⟩ := encode_of_isDigit hdigits.1
  rw [toBytes_cons, hb]
  exact ⟨b, toBytes t, ⟨hdigit, rfl⟩, _, rfl,
    digits_append (isDigit_of_mem_toBytes hdigits.2) hrest⟩

theorem exists_run_of_someDigits {ds s rest : Bytes} (h : SomeDigits ds s rest) :
    ∃ t, DigitRun t ∧ ds = toBytes t ∧ s = toBytes t ++ rest := by
  obtain ⟨b, others, ⟨hb, rfl⟩, u, rfl, hothers⟩ := h
  obtain ⟨rfl, hdigits⟩ := eq_append_of_digits hothers
  obtain ⟨t, ht, hrun⟩ := exists_toBytes_of_isDigit (List.forall_mem_cons.2 ⟨hb, hdigits⟩)
  refine ⟨t, ⟨?_, hrun⟩, ht, by rw [← ht]; rfl⟩
  rintro rfl
  cases ht

/-! ### The parts of a number -/

theorem head?_toBytes_eq_zero_iff {t : List Char} (h : DigitRun t) :
    (toBytes t).head? = some 0x30 ↔ t.head? = some '0' := by
  obtain ⟨c, t, rfl⟩ := List.exists_cons_of_ne_nil h.1
  obtain ⟨b, hb, -⟩ := encode_of_isDigit (h.2 c List.mem_cons_self)
  rw [toBytes_cons, hb, List.singleton_append, List.head?_cons, List.head?_cons, Option.some.injEq,
    Option.some.injEq]
  constructor
  · rintro rfl
    have : toBytes [c] = toBytes ['0'] := by rw [toBytes_cons, hb]; rfl
    exact (List.cons.inj (Text.toBytes_inj.1 this)).1
  · rintro rfl
    exact (List.cons.inj hb).1.symm

theorem whole_of_written {t : List Char} (h : DigitRun t)
    (hzero : t.head? = some '0' → t = ['0']) {rest : Bytes} (hrest : Stops [] rest) :
    Whole (toBytes t) (toBytes t ++ rest) rest := by
  refine ⟨fun hhead => ?_, someDigits_of_run h hrest⟩
  rw [hzero ((head?_toBytes_eq_zero_iff h).1 hhead)]
  rfl

theorem exists_written_of_whole {ds s rest : Bytes} (h : Whole ds s rest) :
    ∃ t, DigitRun t ∧ (t.head? = some '0' → t = ['0']) ∧ s = toBytes t ++ rest := by
  obtain ⟨hzero, hdigits⟩ := h
  obtain ⟨t, ht, rfl, rfl⟩ := exists_run_of_someDigits hdigits
  refine ⟨t, ht, fun hhead => ?_, rfl⟩
  exact Text.toBytes_inj.1 (hzero ((head?_toBytes_eq_zero_iff ht).2 hhead))

theorem encode_point : String.utf8EncodeChar '.' = [0x2E] := rfl

theorem exists_fraction_of_written {t : List Char} (h : FractionWritten t) :
    ∃ ds, ∀ rest, Stops [0x2E] rest → Fraction ds (toBytes t ++ rest) rest := by
  rcases h with rfl | ⟨digits, rfl, hne, hdigits⟩
  · exact ⟨[], fun rest hrest => .inl ⟨rfl, hrest.without⟩⟩
  · refine ⟨toBytes digits, fun rest hrest => ?_⟩
    rw [toBytes_cons, encode_point]
    refine fraction_point_iff.2 ⟨fun hnil => hne ?_, ?_⟩
    · exact Text.toBytes_inj.1 (hnil.trans toBytes_nil.symm)
    · exact digits_append (isDigit_of_mem_toBytes hdigits) (hrest.mono (by simp))

theorem exists_written_of_fraction {ds s rest : Bytes} (h : Fraction ds s rest) :
    ∃ t, FractionWritten t ∧ s = toBytes t ++ rest := by
  rcases h with ⟨-, rfl, -⟩ | ⟨hne, u, rfl, hdigits⟩
  · exact ⟨[], .inl rfl, rfl⟩
  · obtain ⟨rfl, hall⟩ := eq_append_of_digits hdigits
    obtain ⟨t, rfl, ht⟩ := exists_toBytes_of_isDigit hall
    refine ⟨'.' :: t, .inr ⟨t, rfl, ?_, ht⟩, by rw [toBytes_cons, encode_point]; rfl⟩
    rintro rfl
    exact hne rfl

theorem without_run {t : List Char} (h : DigitRun t) {marks : List UInt8}
    (hmarks : ∀ b ∈ marks, isDigit b = false) (rest : Bytes) :
    Without marks (toBytes t ++ rest) (toBytes t ++ rest) := by
  obtain ⟨c, t, rfl⟩ := List.exists_cons_of_ne_nil h.1
  obtain ⟨b, hb, hdigit⟩ := encode_of_isDigit (h.2 c List.mem_cons_self)
  refine ⟨rfl, fun m hm hhead => ?_⟩
  rw [toBytes_cons, hb] at hhead
  obtain rfl : b = m := Option.some.inj hhead
  rw [hmarks b hm] at hdigit
  cases hdigit

/-- The marks of a power of ten, as characters and as bytes. -/
theorem exists_encode_mark {mark : Char} (h : mark ∈ ['e', 'E']) :
    ∃ b, String.utf8EncodeChar mark = [b] ∧ (b = 0x65 ∨ b = 0x45) := by
  simp only [List.mem_cons, List.not_mem_nil, or_false] at h
  rcases h with rfl | rfl
  · exact ⟨0x65, rfl, .inl rfl⟩
  · exact ⟨0x45, rfl, .inr rfl⟩

theorem exists_power_of_written {t : List Char} (h : PowerWritten t) :
    ∃ power, ∀ rest, Stops [0x65, 0x45] rest → Power power (toBytes t ++ rest) rest := by
  rcases h with rfl | ⟨mark, sign, digits, rfl, hmark, hsign, hrun⟩
  · exact ⟨none, fun rest hrest => .inl ⟨rfl, hrest.without⟩⟩
  obtain ⟨b, hb, hbyte⟩ := exists_encode_mark hmark
  obtain ⟨negative, hnegative⟩ : ∃ negative, ∀ rest,
      PowerSign negative (toBytes sign ++ (toBytes digits ++ rest)) (toBytes digits ++ rest) := by
    simp only [List.mem_cons, List.not_mem_nil, or_false] at hsign
    rcases hsign with rfl | rfl | rfl
    · exact ⟨false, fun rest => .inr ⟨rfl, .inr (without_run hrun (by decide +kernel) rest)⟩⟩
    · exact ⟨false, fun rest => .inr ⟨rfl, .inl rfl⟩⟩
    · exact ⟨true, fun rest => .inl ⟨rfl, rfl⟩⟩
  refine ⟨some (negative, toBytes digits), fun rest hrest => ?_⟩
  rw [toBytes_cons, toBytes_append, hb, List.append_assoc, List.append_assoc]
  exact .inr ⟨b, negative, _, ⟨hbyte, rfl⟩, _, rfl, _, hnegative rest,
    someDigits_of_run hrun (hrest.mono (by simp))⟩

theorem exists_written_of_power {power : Option (Bool × Bytes)} {s rest : Bytes}
    (h : Power power s rest) : ∃ t, PowerWritten t ∧ s = toBytes t ++ rest := by
  rcases h with ⟨-, rfl, -⟩ | ⟨b, negative, ds, ⟨hb, -⟩, u, rfl, v, hsign, hdigits⟩
  · exact ⟨[], .inl rfl, rfl⟩
  obtain ⟨digits, hrun, -, rfl⟩ := exists_run_of_someDigits hdigits
  obtain ⟨mark, hmark, hbyte⟩ : ∃ mark ∈ ['e', 'E'], String.utf8EncodeChar mark = [b] := by
    rcases hb with rfl | rfl
    · exact ⟨'e', by simp, rfl⟩
    · exact ⟨'E', by simp, rfl⟩
  obtain ⟨sign, hmem, hu⟩ :
      ∃ sign ∈ [[], ['+'], ['-']], u = toBytes sign ++ (toBytes digits ++ rest) := by
    rcases hsign with ⟨-, rfl⟩ | ⟨-, rfl | ⟨rfl, -⟩⟩
    · exact ⟨['-'], by simp, rfl⟩
    · exact ⟨['+'], by simp, rfl⟩
    · exact ⟨[], by simp, rfl⟩
  refine ⟨mark :: (sign ++ digits), .inr ⟨mark, sign, digits, rfl, hmark, hmem, hrun⟩, ?_⟩
  rw [hu, toBytes_cons, toBytes_append, hbyte, List.append_assoc, List.append_assoc]

/-! ### Numbers -/

/-- No number that stands in front of these bytes could go on with them. -/
def Ends (s : Bytes) : Prop := Stops [0x2E, 0x65, 0x45] s

/-- In front of an end, a power of ten is one to the digits and the fraction before it. -/
theorem stops_power {t : List Char} (h : PowerWritten t) {rest : Bytes} (hrest : Ends rest) :
    Stops [0x2E] (toBytes t ++ rest) := by
  rcases h with rfl | ⟨mark, sign, digits, rfl, hmark, -, -⟩
  · exact hrest.mono (by simp)
  · obtain ⟨b, hb, hbyte⟩ := exists_encode_mark hmark
    intro m hm
    rw [toBytes_cons, hb] at hm
    obtain rfl : b = m := Option.some.inj hm
    rcases hbyte with rfl | rfl <;> decide

theorem stops_fraction {t : List Char} (h : FractionWritten t) {rest : Bytes}
    (hrest : Stops [0x2E] rest) : Stops [] (toBytes t ++ rest) := by
  rcases h with rfl | ⟨digits, rfl, -⟩
  · exact hrest.mono (by simp)
  · intro m hm
    obtain rfl : 0x2E = m := Option.some.inj hm
    decide

/-- **A number that is written is read**, in front of any end as the same parts. -/
theorem exists_spelled_of_written {t : List Char} (h : NumberWritten t) :
    ∃ n, ∀ rest, Ends rest → Spelled n (toBytes t ++ rest) rest := by
  obtain ⟨sign, whole, fraction, power, rfl, hsign, hwhole, hzero, hfraction, hpower⟩ := h
  obtain ⟨ds, hds⟩ := exists_fraction_of_written hfraction
  obtain ⟨p, hp⟩ := exists_power_of_written hpower
  have hunsigned : ∀ negative rest, Ends rest → Unsigned ⟨negative, toBytes whole, ds, p⟩
      (toBytes whole ++ (toBytes fraction ++ (toBytes power ++ rest))) rest := by
    intro negative rest hrest
    have hstops := stops_power hpower hrest
    exact ⟨_, whole_of_written hwhole hzero (stops_fraction hfraction hstops), _, hds _ hstops,
      hp rest (hrest.mono (by simp))⟩
  simp only [toBytes_append, List.append_assoc]
  simp only [List.mem_cons, List.not_mem_nil, or_false] at hsign
  rcases hsign with rfl | rfl
  · exact ⟨_, fun rest hrest => .inr ⟨rfl, hunsigned false rest hrest⟩⟩
  · exact ⟨_, fun rest hrest => .inl ⟨rfl, _, rfl, hunsigned true rest hrest⟩⟩

/-- **What is read as a number is written as one.** -/
theorem exists_written_of_spelled {n : Spelling} {s rest : Bytes} (h : Spelled n s rest) :
    ∃ t, NumberWritten t ∧ s = toBytes t ++ rest := by
  have hunsigned : ∀ s, Unsigned n s rest → ∃ whole fraction power,
      s = toBytes (whole ++ fraction ++ power) ++ rest ∧ DigitRun whole ∧
        (whole.head? = some '0' → whole = ['0']) ∧ FractionWritten fraction ∧
        PowerWritten power := by
    rintro s ⟨u, hwhole, v, hfraction, hpower⟩
    obtain ⟨power, hpowerText, rfl⟩ := exists_written_of_power hpower
    obtain ⟨fraction, hfractionText, rfl⟩ := exists_written_of_fraction hfraction
    obtain ⟨whole, hrun, hzero, rfl⟩ := exists_written_of_whole hwhole
    exact ⟨whole, fraction, power, by simp, hrun, hzero, hfractionText, hpowerText⟩
  rcases h with ⟨-, u, rfl, h⟩ | ⟨-, h⟩
  · obtain ⟨whole, fraction, power, rfl, hparts⟩ := hunsigned u h
    exact ⟨_, ⟨['-'], whole, fraction, power, rfl, by simp, hparts⟩, by simp; rfl⟩
  · obtain ⟨whole, fraction, power, rfl, hparts⟩ := hunsigned s h
    exact ⟨_, ⟨[], whole, fraction, power, rfl, by simp, hparts⟩, by simp⟩

/-- A number is read up to its end. -/
theorem spelled_append_iff {t : List Char} (h : NumberWritten t) {rest : Bytes} (hrest : Ends rest)
    {n : Spelling} {rest' : Bytes} :
    Spelled n (toBytes t ++ rest) rest' ↔ Spelled n (toBytes t) [] ∧ rest' = rest := by
  obtain ⟨m, hm⟩ := exists_spelled_of_written h
  have hhere := reads_readSpelling_iff.2 (hm rest hrest)
  have halone := hm [] (by rintro b ⟨⟩)
  rw [List.append_nil] at halone
  constructor
  · intro hn
    obtain ⟨rfl, rfl⟩ := reads_unique (reads_readSpelling_iff.2 hn) hhere
    exact ⟨halone, rfl⟩
  · rintro ⟨hn, rfl⟩
    obtain ⟨rfl, -⟩ := reads_unique (reads_readSpelling_iff.2 hn) (reads_readSpelling_iff.2 halone)
    exact hm rest' hrest

end CommitGate.Json
