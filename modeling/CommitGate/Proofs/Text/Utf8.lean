import CommitGate.Text.Utf8
import Mathlib.Data.List.Basic

/-!
# Bytes that are text

The reader of bytes and the writer of text agree: a character stands at the front of the bytes just
if its own bytes do (`firstChar?_eq_some_iff`), so that bytes are the text `s` to their end just if
they are the bytes of `s` (`ofBytes_eq_iff`).
-/

namespace CommitGate.Text

/-! ### Single bytes -/

theorem lead?_one : ∀ k < 0x80, lead? (UInt8.ofNat k) = some (0, k, 0) := by decide

theorem lead?_two : ∀ k < 0x20, lead? (UInt8.ofNat (k + 0xC0)) = some (1, k, 0x80) := by decide

theorem lead?_three : ∀ k < 0x10, lead? (UInt8.ofNat (k + 0xE0)) = some (2, k, 0x800) := by decide

theorem lead?_four : ∀ k < 0x08, lead? (UInt8.ofNat (k + 0xF0)) = some (3, k, 0x10000) := by decide

/-- The four kinds of first byte. -/
theorem lead?_eq_some {b : UInt8} {n share least : Nat} (h : lead? b = some (n, share, least)) :
    (n = 0 ∧ least = 0 ∧ share < 0x80 ∧ b = UInt8.ofNat share) ∨
      (n = 1 ∧ least = 0x80 ∧ share < 0x20 ∧ b = UInt8.ofNat (share + 0xC0)) ∨
      (n = 2 ∧ least = 0x800 ∧ share < 0x10 ∧ b = UInt8.ofNat (share + 0xE0)) ∨
      (n = 3 ∧ least = 0x10000 ∧ share < 0x08 ∧ b = UInt8.ofNat (share + 0xF0)) := by
  have hback : ∀ m ≤ b.toNat, b = UInt8.ofNat (b.toNat - m + m) := fun m hm => by
    rw [Nat.sub_add_cancel hm, UInt8.ofNat_toNat]
  unfold lead? at h
  simp only [UInt8.lt_iff_toNat_lt, UInt8.reduceToNat] at h
  split at h
  · simp only [Option.some.injEq, Prod.mk.injEq] at h
    obtain ⟨rfl, rfl, rfl⟩ := h
    exact .inl ⟨rfl, rfl, ‹_›, UInt8.ofNat_toNat.symm⟩
  split at h
  · cases h
  split at h
  · simp only [Option.some.injEq, Prod.mk.injEq] at h
    obtain ⟨rfl, rfl, rfl⟩ := h
    exact .inr (.inl ⟨rfl, rfl, by omega, hback _ (by omega)⟩)
  split at h
  · simp only [Option.some.injEq, Prod.mk.injEq] at h
    obtain ⟨rfl, rfl, rfl⟩ := h
    exact .inr (.inr (.inl ⟨rfl, rfl, by omega, hback _ (by omega)⟩))
  split at h
  · simp only [Option.some.injEq, Prod.mk.injEq] at h
    obtain ⟨rfl, rfl, rfl⟩ := h
    exact .inr (.inr (.inr ⟨rfl, rfl, by omega, hback _ (by omega)⟩))
  · cases h

/-- The byte takes part in a character that another byte has begun. -/
def Continues (b : UInt8) : Prop := 0x80 ≤ b ∧ b < 0xC0

theorem continues_ofNat : ∀ k < 0x40, Continues (UInt8.ofNat (k + 0x80)) := by
  unfold Continues
  decide

theorem toNat_ofNat_continue : ∀ k < 0x40, (UInt8.ofNat (k + 0x80)).toNat - 0x80 = k := by decide

theorem continue?_cons {k : Nat} (hk : k < 0x40) (n code : Nat) (s : Bytes) :
    continue? (n + 1) code (UInt8.ofNat (k + 0x80) :: s) = continue? n (code * 64 + k) s := by
  have hb : 0x80 ≤ UInt8.ofNat (k + 0x80) ∧ UInt8.ofNat (k + 0x80) < 0xC0 := continues_ofNat k hk
  rw [continue?, if_pos hb, toNat_ofNat_continue k hk]

theorem continue?_succ_eq_some {n code result : Nat} {s rest : Bytes}
    (h : continue? (n + 1) code s = some (result, rest)) :
    ∃ k t, k < 0x40 ∧ s = UInt8.ofNat (k + 0x80) :: t ∧
      continue? n (code * 64 + k) t = some (result, rest) := by
  rcases s with _ | ⟨b, t⟩
  · cases h
  rw [continue?] at h
  split at h
  · next hb =>
    simp only [UInt8.le_iff_toNat_le, UInt8.lt_iff_toNat_lt, UInt8.reduceToNat] at hb
    refine ⟨b.toNat - 0x80, t, by omega, ?_, h⟩
    rw [Nat.sub_add_cancel hb.1, UInt8.ofNat_toNat]
  · cases h

theorem toNat_charOfNat {n : Nat} (h : n.isValidChar) : (Char.ofNat n).toNat = n := by
  rw [Char.ofNat, dif_pos h]
  rfl

theorem charOf?_eq_some_iff {least code : Nat} {c : Char} :
    charOf? least code = some c ↔ c.toNat = code ∧ least ≤ code := by
  unfold charOf?
  constructor
  · intro h
    split at h
    · next hcode =>
      obtain rfl := Option.some.inj h
      exact ⟨toNat_charOfNat hcode.1, hcode.2⟩
    · cases h
  · rintro ⟨rfl, hle⟩
    rw [if_pos ⟨c.valid, hle⟩, Char.ofNat_toNat]

/-! ### Characters -/

theorem toNat_lt (c : Char) : c.toNat < 0x110000 := by
  have h := c.valid
  simp only [UInt32.isValidChar, Nat.isValidChar] at h
  rw [Char.toNat]
  omega

theorem firstChar?_cons {b : UInt8} {n share least : Nat} (h : lead? b = some (n, share, least))
    (s : Bytes) :
    firstChar? (b :: s) =
      (continue? n share s).bind fun p => (charOf? least p.1).map fun c => (c, p.2) := by
  simp only [firstChar?, h, Option.bind_eq_bind, Option.bind_some, Option.pure_def]
  rcases continue? n share s with _ | ⟨code, rest⟩
  · rfl
  · simp only [Option.bind_some]
    rcases charOf? least code with _ | c <;> rfl

/-- The bytes of a character are read as that character. -/
theorem firstChar?_encode_append (c : Char) (rest : Bytes) :
    firstChar? (String.utf8EncodeChar c ++ rest) = some (c, rest) := by
  have hchar : ∀ least code, c.toNat = code → least ≤ code → charOf? least code = some c :=
    fun _ _ hcode hle => charOf?_eq_some_iff.2 ⟨hcode, hle⟩
  have hmax := toNat_lt c
  unfold String.utf8EncodeChar
  simp only [show c.val.toNat = c.toNat from rfl]
  split
  · rw [List.cons_append, firstChar?_cons (lead?_one _ (by omega)), continue?, Option.bind_some,
      hchar _ _ rfl (Nat.zero_le _)]
    rfl
  split
  · rw [List.cons_append, List.cons_append, firstChar?_cons (lead?_two _ (by omega)),
      continue?_cons (by omega), continue?, Option.bind_some, hchar _ _ (by omega) (by omega)]
    rfl
  split
  · rw [List.cons_append, List.cons_append, List.cons_append,
      firstChar?_cons (lead?_three _ (by omega)), continue?_cons (by omega),
      continue?_cons (by omega), continue?, Option.bind_some, hchar _ _ (by omega) (by omega)]
    rfl
  · rw [List.cons_append, List.cons_append, List.cons_append, List.cons_append,
      firstChar?_cons (lead?_four _ (by omega)), continue?_cons (by omega),
      continue?_cons (by omega), continue?_cons (by omega), continue?, Option.bind_some,
      hchar _ _ (by omega) (by omega)]
    rfl

/-- What is read as a character are the bytes of that character. -/
theorem eq_encode_append_of_firstChar? {c : Char} {s rest : Bytes}
    (h : firstChar? s = some (c, rest)) : s = String.utf8EncodeChar c ++ rest := by
  rcases s with _ | ⟨b, s⟩
  · cases h
  rcases hlead : lead? b with _ | ⟨n, share, least⟩
  · simp [firstChar?, hlead] at h
  rw [firstChar?_cons hlead, Option.bind_eq_some_iff] at h
  obtain ⟨⟨code, t⟩, hcontinue, h⟩ := h
  simp only [Option.map_eq_some_iff, Prod.mk.injEq, charOf?_eq_some_iff] at h
  obtain ⟨_, ⟨hcode, hle⟩, rfl, rfl⟩ := h
  rw [Char.toNat] at hcode
  unfold String.utf8EncodeChar
  simp only [hcode]
  rcases lead?_eq_some hlead with ⟨rfl, rfl, hshare, rfl⟩ | ⟨rfl, rfl, hshare, rfl⟩ |
    ⟨rfl, rfl, hshare, rfl⟩ | ⟨rfl, rfl, hshare, rfl⟩
  · cases hcontinue
    rw [if_pos (by omega)]
    rfl
  · obtain ⟨k, s, hk, rfl, hdone⟩ := continue?_succ_eq_some hcontinue
    cases hdone
    rw [if_neg (by omega), if_pos (by omega), show (share * 64 + k) / 64 % 0x20 = share by omega,
      show (share * 64 + k) % 0x40 = k by omega]
    rfl
  · obtain ⟨j, s, hj, rfl, hmore⟩ := continue?_succ_eq_some hcontinue
    obtain ⟨k, s, hk, rfl, hdone⟩ := continue?_succ_eq_some hmore
    cases hdone
    rw [if_neg (by omega), if_neg (by omega), if_pos (by omega),
      show ((share * 64 + j) * 64 + k) / 4096 % 0x10 = share by omega,
      show ((share * 64 + j) * 64 + k) / 64 % 0x40 = j by omega,
      show ((share * 64 + j) * 64 + k) % 0x40 = k by omega]
    rfl
  · obtain ⟨i, s, hi, rfl, hmore⟩ := continue?_succ_eq_some hcontinue
    obtain ⟨j, s, hj, rfl, hlast⟩ := continue?_succ_eq_some hmore
    obtain ⟨k, s, hk, rfl, hdone⟩ := continue?_succ_eq_some hlast
    cases hdone
    rw [if_neg (by omega), if_neg (by omega), if_neg (by omega),
      show (((share * 64 + i) * 64 + j) * 64 + k) / 262144 % 0x08 = share by omega,
      show (((share * 64 + i) * 64 + j) * 64 + k) / 4096 % 0x40 = i by omega,
      show (((share * 64 + i) * 64 + j) * 64 + k) / 64 % 0x40 = j by omega,
      show (((share * 64 + i) * 64 + j) * 64 + k) % 0x40 = k by omega]
    rfl

/-- **A character stands at the front of the bytes just if its own bytes do.** -/
theorem firstChar?_eq_some_iff {c : Char} {s rest : Bytes} :
    firstChar? s = some (c, rest) ↔ s = String.utf8EncodeChar c ++ rest := by
  constructor
  · exact eq_encode_append_of_firstChar?
  · rintro rfl
    exact firstChar?_encode_append c rest

/-- A character below `U+0080` is one byte. -/
theorem encode_of_lt {c : Char} (h : c.toNat < 0x80) :
    String.utf8EncodeChar c = [UInt8.ofNat c.toNat] := by
  unfold String.utf8EncodeChar
  rw [if_pos (show c.val.toNat ≤ 0x7F by rw [Char.toNat] at h; omega), Char.toNat]

theorem not_continues_of_lead? {b : UInt8} {found : Nat × Nat × Nat} (h : lead? b = some found) :
    ¬ Continues b := by
  rintro ⟨hge, hlt⟩
  simp [lead?, UInt8.not_lt.2 hge, hlt] at h

/-- A character has one byte that begins it, and the others continue it. -/
theorem exists_encode_eq_cons (c : Char) :
    ∃ b t, String.utf8EncodeChar c = b :: t ∧ ¬ Continues b ∧ ∀ k ∈ t, Continues k := by
  have hmax := toNat_lt c
  unfold String.utf8EncodeChar
  simp only [show c.val.toNat = c.toNat from rfl]
  split
  · exact ⟨_, _, rfl, not_continues_of_lead? (lead?_one _ (by omega)), by simp⟩
  split
  · refine ⟨_, _, rfl, not_continues_of_lead? (lead?_two _ (by omega)), ?_⟩
    rw [List.forall_mem_singleton]
    exact continues_ofNat _ (by omega)
  split
  · refine ⟨_, _, rfl, not_continues_of_lead? (lead?_three _ (by omega)), ?_⟩
    rw [List.forall_mem_cons, List.forall_mem_singleton]
    exact ⟨continues_ofNat _ (by omega), continues_ofNat _ (by omega)⟩
  · refine ⟨_, _, rfl, not_continues_of_lead? (lead?_four _ (by omega)), ?_⟩
    rw [List.forall_mem_cons, List.forall_mem_cons, List.forall_mem_singleton]
    exact ⟨continues_ofNat _ (by omega), continues_ofNat _ (by omega),
      continues_ofNat _ (by omega)⟩

/-- The bytes of a character from `U+0080` on are none of the first 128. -/
theorem le_of_mem_encode {c : Char} (h : 0x80 ≤ c.toNat) :
    ∀ b ∈ String.utf8EncodeChar c, 0x80 ≤ b := by
  obtain ⟨b, t, hbytes, -, ht⟩ := exists_encode_eq_cons c
  intro k hk
  rw [hbytes, List.mem_cons] at hk
  rcases hk with rfl | hk
  · rw [← UInt8.not_lt]
    intro hlt
    -- a single byte below `0x80` would be a character of its own
    have hfirst := firstChar?_encode_append c []
    rw [hbytes, List.append_nil, firstChar?_cons (b := k) (if_pos hlt)] at hfirst
    simp only [continue?, Option.bind_some, Option.map_eq_some_iff, Prod.mk.injEq,
      charOf?_eq_some_iff] at hfirst
    obtain ⟨_, ⟨hcode, -⟩, rfl, -⟩ := hfirst
    rw [UInt8.lt_iff_toNat_lt, ← hcode] at hlt
    exact Nat.not_lt.2 h hlt
  · exact (ht k hk).1

/-! ### Texts -/

@[simp] theorem toBytes_nil : toBytes [] = [] := rfl

@[simp] theorem toBytes_cons (c : Char) (s : List Char) :
    toBytes (c :: s) = String.utf8EncodeChar c ++ toBytes s := List.flatMap_cons

@[simp] theorem toBytes_append (s t : List Char) : toBytes (s ++ t) = toBytes s ++ toBytes t :=
  List.flatMap_append

/-- What holds of the codes of the ASCII characters among some, and of the bytes from `0x80` on, holds
of all bytes of a text of such characters. -/
theorem forall_mem_toBytes {p : Char → Bool} {P : UInt8 → Prop} {s : List Char}
    (hs : ∀ c ∈ s, p c = true) (hascii : ∀ n < 0x80, p (Char.ofNat n) = true → P (UInt8.ofNat n))
    (hbeyond : ∀ b, 0x80 ≤ b → P b) : ∀ b ∈ toBytes s, P b := by
  intro b hb
  obtain ⟨c, hc, hb⟩ := List.mem_flatMap.1 hb
  by_cases hlt : c.toNat < 0x80
  · rw [encode_of_lt hlt, List.mem_singleton] at hb
    have hp : p (Char.ofNat c.toNat) = true := by
      rw [Char.ofNat_toNat]
      exact hs c hc
    rw [hb]
    exact hascii c.toNat hlt hp
  · exact hbeyond b (le_of_mem_encode (Nat.not_lt.1 hlt) b hb)

theorem ofBytes_toBytes (s : List Char) : ofBytes (toBytes s) = (s, []) := by
  induction s with
  | nil => rw [toBytes_nil, ofBytes]; rfl
  | cons c s ih =>
    rw [toBytes_cons, ofBytes]
    split
    · next h => rw [firstChar?_encode_append] at h; cases h
    · next h =>
      rw [firstChar?_encode_append] at h
      cases h
      rw [ih]

/-- Texts with the same bytes are the same. -/
theorem toBytes_inj {s t : List Char} : toBytes s = toBytes t ↔ s = t := by
  refine ⟨fun h => ?_, congrArg toBytes⟩
  have hs := ofBytes_toBytes s
  rw [h, ofBytes_toBytes] at hs
  exact (congrArg Prod.fst hs).symm

theorem eq_toBytes_append_ofBytes (s : Bytes) : s = toBytes (ofBytes s).1 ++ (ofBytes s).2 := by
  fun_induction ofBytes s with
  | case1 s h => rfl
  | case2 s c rest h hlt ih =>
    rw [toBytes_cons, List.append_assoc, ← ih]
    exact firstChar?_eq_some_iff.1 h

/-- **Bytes are a text to their end just if they are the bytes of the text.** -/
theorem ofBytes_eq_iff {s : Bytes} {text : List Char} :
    ofBytes s = (text, []) ↔ s = toBytes text := by
  constructor
  · intro h
    have hs := eq_toBytes_append_ofBytes s
    rwa [h, List.append_nil] at hs
  · rintro rfl
    exact ofBytes_toBytes text

end CommitGate.Text
