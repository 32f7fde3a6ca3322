import CommitGate.Proofs.Json.Escape
import CommitGate.Proofs.Json.Grammar
import CommitGate.Proofs.Text.Utf8

/-!
# Strings as they are written

What the readers of strings take, said in the grammar's words. A string is read as a text just if it
is written as that text (`reads_readString_iff_written`); one that is skipped may have any body
(`skippedString_of_body`). The readers see bytes and the grammar has characters: a character that
stands for itself is read byte by byte, and its bytes keep together because none of them but the first
can begin anything (`spells_continues`).
-/

namespace CommitGate.Json

open Relation (Comp)
open Text (toBytes toBytes_append toBytes_cons toBytes_inj toBytes_nil Continues)

/-! ### Escapes -/

theorem hexValue?_small : ∀ n : Fin 16,
    hexValue? (UInt8.ofNat (smallDigits.get n).toNat) = some n.1 ∧
      (smallDigits.get n).toNat < 0x80 := by decide

theorem hexValue?_capital : ∀ n : Fin 16,
    hexValue? (UInt8.ofNat (capitalDigits.get n).toNat) = some n.1 ∧
      (capitalDigits.get n).toNat < 0x80 := by decide

theorem hexDigit_decimal : ∀ n < 10, smallDigits[n]? = some (Char.ofNat (n + 0x30)) ∧
    String.utf8EncodeChar (Char.ofNat (n + 0x30)) = [UInt8.ofNat (n + 0x30)] := by decide

theorem hexDigit_capital : ∀ n < 6, capitalDigits[n + 10]? = some (Char.ofNat (n + 0x41)) ∧
    String.utf8EncodeChar (Char.ofNat (n + 0x41)) = [UInt8.ofNat (n + 0x41)] := by decide

theorem hexDigit_small : ∀ n < 6, smallDigits[n + 10]? = some (Char.ofNat (n + 0x61)) ∧
    String.utf8EncodeChar (Char.ofNat (n + 0x61)) = [UInt8.ofNat (n + 0x61)] := by decide

theorem lt_of_hexDigit {c : Char} {n : Nat} (h : HexDigit c n) : n < 16 := by
  rcases h with h | h
  · exact (List.getElem?_eq_some_iff.1 h).1
  · exact (List.getElem?_eq_some_iff.1 h).1

theorem encode_of_hexDigit {c : Char} {n : Nat} (h : HexDigit c n) :
    ∃ b, String.utf8EncodeChar c = [b] ∧ hexValue? b = some n := by
  rcases h with h | h
  · obtain ⟨hn, rfl⟩ := List.getElem?_eq_some_iff.1 h
    obtain ⟨hvalue, hlt⟩ := hexValue?_small ⟨n, hn⟩
    exact ⟨_, Text.encode_of_lt hlt, hvalue⟩
  · obtain ⟨hn, rfl⟩ := List.getElem?_eq_some_iff.1 h
    obtain ⟨hvalue, hlt⟩ := hexValue?_capital ⟨n, hn⟩
    exact ⟨_, Text.encode_of_lt hlt, hvalue⟩

theorem exists_hexDigit {b : UInt8} {n : Nat} (h : hexValue? b = some n) :
    ∃ c, String.utf8EncodeChar c = [b] ∧ HexDigit c n := by
  unfold hexValue? at h
  simp only [UInt8.le_iff_toNat_le, UInt8.reduceToNat] at h
  split at h
  · obtain rfl := Option.some.inj h
    have hdigit := hexDigit_decimal (b.toNat - 0x30) (by omega)
    rw [Nat.sub_add_cancel (by omega), UInt8.ofNat_toNat] at hdigit
    exact ⟨_, hdigit.2, .inl hdigit.1⟩
  split at h
  · obtain rfl := Option.some.inj h
    have hdigit := hexDigit_capital (b.toNat - 0x41) (by omega)
    rw [Nat.sub_add_cancel (by omega), UInt8.ofNat_toNat,
      show b.toNat - 0x41 + 10 = b.toNat - 0x37 by omega] at hdigit
    exact ⟨_, hdigit.2, .inr hdigit.1⟩
  split at h
  · obtain rfl := Option.some.inj h
    have hdigit := hexDigit_small (b.toNat - 0x61) (by omega)
    rw [Nat.sub_add_cancel (by omega), UInt8.ofNat_toNat,
      show b.toNat - 0x61 + 10 = b.toNat - 0x57 by omega] at hdigit
    exact ⟨_, hdigit.2, .inl hdigit.1⟩
  · cases h

theorem hex4_iff {n : Nat} {s rest : Bytes} :
    Hex4 n s rest ↔ ∃ t, FourHex n t ∧ s = toBytes t ++ rest := by
  constructor
  · rintro ⟨a, b, c, d, w, x, y, z, ⟨hw, hx, hy, hz, rfl⟩, rfl⟩
    obtain ⟨ca, ha, hw⟩ := exists_hexDigit hw
    obtain ⟨cb, hb, hx⟩ := exists_hexDigit hx
    obtain ⟨cc, hc, hy⟩ := exists_hexDigit hy
    obtain ⟨cd, hd, hz⟩ := exists_hexDigit hz
    exact ⟨[ca, cb, cc, cd], ⟨_, _, _, _, w, x, y, z, rfl, hw, hx, hy, hz, rfl⟩,
      by simp [ha, hb, hc, hd]⟩
  · rintro ⟨_, ⟨ca, cb, cc, cd, w, x, y, z, rfl, hw, hx, hy, hz, rfl⟩, rfl⟩
    obtain ⟨a, ha, hw⟩ := encode_of_hexDigit hw
    obtain ⟨b, hb, hx⟩ := encode_of_hexDigit hx
    obtain ⟨c, hc, hy⟩ := encode_of_hexDigit hy
    obtain ⟨d, hd, hz⟩ := encode_of_hexDigit hz
    exact ⟨a, b, c, d, w, x, y, z, ⟨hw, hx, hy, hz, rfl⟩, by simp [Literal, ha, hb, hc, hd]⟩

theorem lt_of_fourHex {n : Nat} {t : List Char} (h : FourHex n t) : n < 0x10000 := by
  obtain ⟨a, b, c, d, w, x, y, z, -, hw, hx, hy, hz, rfl⟩ := h
  have := lt_of_hexDigit hw
  have := lt_of_hexDigit hx
  have := lt_of_hexDigit hy
  have := lt_of_hexDigit hz
  omega

theorem encode_backslash : String.utf8EncodeChar '\\' = [0x5C] := rfl

theorem encode_u : String.utf8EncodeChar 'u' = [0x75] := rfl

/-- A character's code behind a backslash and the letter `u`. -/
theorem charWritten_code_iff {c : Char} {t : List Char} :
    CharWritten c ('\\' :: 'u' :: t) ↔
      FourHex c.toNat t ∨ 0x10000 ≤ c.toNat ∧
        ∃ high low, FourHex (0xD800 + (c.toNat - 0x10000) / 0x400) high ∧
          FourHex (0xDC00 + (c.toNat - 0x10000) % 0x400) low ∧ t = high ++ '\\' :: 'u' :: low := by
  constructor
  · rintro (_ | h | h | ⟨hc, hhigh, hlow⟩)
    · cases h
    · exact .inl h
    · exact .inr ⟨hc, _, _, hhigh, hlow, rfl⟩
  · rintro (h | ⟨hc, high, low, hhigh, hlow, rfl⟩)
    · exact .code h
    · exact .pair hc hhigh hlow

theorem code_iff {c : Char} {s rest : Bytes} :
    Code c s rest ↔ ∃ t, CharWritten c ('\\' :: 'u' :: t) ∧ s = toBytes t ++ rest := by
  simp only [Code, Comp, SecondHalf, hex4_iff, charWritten_code_iff]
  constructor
  · rintro (⟨n, ⟨hsecond, hfirst, rfl⟩, t, ht, rfl⟩ |
      ⟨n, m, ⟨hn, hm, hc⟩, _, ⟨high, hhigh, rfl⟩, _, rfl, low, hlow, rfl⟩)
    · have hlt := lt_of_fourHex ht
      have hvalid : n.isValidChar := by
        unfold IsSecondHalf at hsecond
        unfold IsFirstHalf at hfirst
        unfold Nat.isValidChar
        omega
      refine ⟨t, .inl ?_, rfl⟩
      rwa [Text.toNat_charOfNat hvalid]
    · unfold IsFirstHalf at hn
      unfold IsSecondHalf at hm
      generalize hk : 0x10000 + (n - 0xD800) * 0x400 + (m - 0xDC00) = k at hc
      have hvalid : k.isValidChar := by
        unfold Nat.isValidChar
        omega
      refine ⟨high ++ '\\' :: 'u' :: low, .inr ?_, by simp [encode_backslash, encode_u]⟩
      rw [hc, Text.toNat_charOfNat hvalid]
      rw [show n = 0xD800 + (k - 0x10000) / 0x400 by omega] at hhigh
      rw [show m = 0xDC00 + (k - 0x10000) % 0x400 by omega] at hlow
      exact ⟨by omega, high, low, hhigh, hlow, rfl⟩
  · have hchar : ∀ n, c.toNat = n → c = Char.ofNat n := by
      rintro _ rfl
      exact (Char.ofNat_toNat c).symm
    have hvalid : c.toNat.isValidChar := c.valid
    unfold Nat.isValidChar at hvalid
    unfold IsFirstHalf IsSecondHalf
    rintro ⟨t, h | ⟨hc, high, low, hhigh, hlow, rfl⟩, rfl⟩
    · exact .inl ⟨c.toNat, ⟨by omega, by omega, hchar _ rfl⟩, t, h, rfl⟩
    · refine .inr ⟨_, _, ⟨by omega, by omega, hchar _ (by omega)⟩, _, ⟨high, hhigh, ?_⟩, _, rfl,
        low, hlow, rfl⟩
      simp [encode_backslash, encode_u]

theorem ShortEscape.exists_bytes {letter c : Char} (h : ShortEscape letter c) :
    ∃ b d, String.utf8EncodeChar letter = [b] ∧ String.utf8EncodeChar c = [d] := by
  cases h <;> exact ⟨_, _, rfl, rfl⟩

theorem letterByte?_eq_some_iff {b d : UInt8} :
    letterByte? b = some d ↔ ∃ letter c, ShortEscape letter c ∧
      String.utf8EncodeChar letter = [b] ∧ String.utf8EncodeChar c = [d] := by
  constructor
  · intro h
    unfold letterByte? at h
    split at h
    · next hself =>
      obtain rfl := Option.some.inj h
      rcases hself with rfl | rfl | rfl
      · exact ⟨_, _, .quote, rfl, rfl⟩
      · exact ⟨_, _, .backslash, rfl, rfl⟩
      · exact ⟨_, _, .slash, rfl, rfl⟩
    split at h
    · next hb =>
      obtain rfl := Option.some.inj h
      exact ⟨_, _, .backspace, by rw [hb]; rfl, rfl⟩
    split at h
    · next hb =>
      obtain rfl := Option.some.inj h
      exact ⟨_, _, .formFeed, by rw [hb]; rfl, rfl⟩
    split at h
    · next hb =>
      obtain rfl := Option.some.inj h
      exact ⟨_, _, .lineFeed, by rw [hb]; rfl, rfl⟩
    split at h
    · next hb =>
      obtain rfl := Option.some.inj h
      exact ⟨_, _, .carriageReturn, by rw [hb]; rfl, rfl⟩
    split at h
    · next hb =>
      obtain rfl := Option.some.inj h
      exact ⟨_, _, .tab, by rw [hb]; rfl, rfl⟩
    · cases h
  · rintro ⟨letter, c, hshort, hletter, hc⟩
    cases hshort <;>
      · cases hletter
        cases hc
        rfl

/-- A character behind a backslash. -/
theorem charWritten_backslash_iff {c : Char} {t : List Char} :
    CharWritten c ('\\' :: t) ↔ (∃ letter, ShortEscape letter c ∧ t = [letter]) ∨
      ∃ u, t = 'u' :: u ∧ CharWritten c ('\\' :: 'u' :: u) := by
  constructor
  · intro h
    cases h with
    | plain h => exact absurd rfl h.2.2
    | short h => exact .inl ⟨_, h, rfl⟩
    | code h => exact .inr ⟨_, rfl, .code h⟩
    | pair hc hhigh hlow => exact .inr ⟨_, rfl, .pair hc hhigh hlow⟩
  · rintro (⟨letter, h, rfl⟩ | ⟨u, rfl, h⟩)
    · exact .short h
    · exact h

/-- **An escape stands for the bytes of a character just if it is written as that character is.** -/
theorem escape_iff {bytes s rest : Bytes} :
    Escape bytes s rest ↔ ∃ c t, bytes = String.utf8EncodeChar c ∧ CharWritten c ('\\' :: t) ∧
      s = toBytes t ++ rest := by
  constructor
  · rintro (⟨b, d, ⟨hletter, rfl⟩, rfl⟩ | ⟨c, rfl, _, rfl, hcode⟩)
    · obtain ⟨letter, c, hshort, hletter, hc⟩ := letterByte?_eq_some_iff.1 hletter
      exact ⟨c, [letter], hc.symm, .short hshort, by simp [hletter]⟩
    · obtain ⟨t, ht, rfl⟩ := code_iff.1 hcode
      exact ⟨c, 'u' :: t, rfl, ht, by simp [encode_u]⟩
  · rintro ⟨c, t, rfl, h, rfl⟩
    rcases charWritten_backslash_iff.1 h with ⟨letter, hshort, rfl⟩ | ⟨u, rfl, h⟩
    · obtain ⟨b, d, hb, hd⟩ := hshort.exists_bytes
      refine .inl ⟨b, d, ⟨letterByte?_eq_some_iff.2 ⟨letter, c, hshort, hb, hd⟩, hd⟩, ?_⟩
      simp [Literal, hb]
    · refine .inr ⟨c, rfl, toBytes u ++ rest, ?_, code_iff.2 ⟨u, h, rfl⟩⟩
      simp [Literal, encode_u]

/-! ### Characters that stand for themselves -/

/-- The byte may stand in a string as itself. -/
def PlainByte (b : UInt8) : Prop := b ≠ 0x22 ∧ b ≠ 0x5C ∧ ¬ b < 0x20

theorem plainByte_of_le {b : UInt8} (h : 0x80 ≤ b) : PlainByte b := by
  simp only [UInt8.le_iff_toNat_le, UInt8.reduceToNat] at h
  refine ⟨?_, ?_, ?_⟩
  · rintro rfl
    exact absurd h (by decide)
  · rintro rfl
    exact absurd h (by decide)
  · rw [UInt8.not_lt, UInt8.le_iff_toNat_le]
    exact Nat.le_trans (by decide) h

theorem plainByte_ofNat_iff : ∀ k < 0x80,
    PlainByte (UInt8.ofNat k) ↔ 0x20 ≤ k ∧ k ≠ 0x22 ∧ k ≠ 0x5C := by
  unfold PlainByte
  decide

theorem isPlain_iff_toNat {c : Char} :
    IsPlain c ↔ 0x20 ≤ c.toNat ∧ c.toNat ≠ 0x22 ∧ c.toNat ≠ 0x5C := by
  rw [IsPlain, Ne, Ne, ← Char.toNat_inj, ← Char.toNat_inj]
  rfl

/-- The first byte of a character tells whether the character may stand for itself. -/
theorem isPlain_iff_of_encode {c : Char} {b : UInt8} {t : Bytes}
    (h : String.utf8EncodeChar c = b :: t) : IsPlain c ↔ PlainByte b := by
  rw [isPlain_iff_toNat]
  rcases Nat.lt_or_ge c.toNat 0x80 with hc | hc
  · rw [Text.encode_of_lt hc] at h
    cases h
    exact (plainByte_ofNat_iff _ hc).symm
  · have hb := Text.le_of_mem_encode hc b (by rw [h]; exact List.mem_cons_self)
    refine iff_of_true (by omega) (plainByte_of_le hb)

theorem plainByte_of_mem_encode {c : Char} (h : IsPlain c) :
    ∀ b ∈ String.utf8EncodeChar c, PlainByte b := by
  obtain ⟨b, t, hbytes, -, ht⟩ := Text.exists_encode_eq_cons c
  rw [hbytes, List.forall_mem_cons]
  exact ⟨(isPlain_iff_of_encode hbytes).1 h, fun k hk => plainByte_of_le (ht k hk).1⟩

theorem quoted_append {escape : Bytes → Bytes → Bytes → Prop} {bytes out s rest : Bytes}
    (hbytes : ∀ b ∈ bytes, PlainByte b) (h : Quoted escape out s rest) :
    Quoted escape (bytes ++ out) (bytes ++ s) rest := by
  induction bytes with
  | nil => exact h
  | cons b bytes ih =>
    rw [List.forall_mem_cons] at hbytes
    obtain ⟨⟨hquote, hslash, hcontrol⟩, hbytes⟩ := hbytes
    exact .plain hquote hslash hcontrol rfl (ih hbytes)

/-- Bytes that go on with a character stand for themselves: no escape gives them. -/
theorem spells_continues {bytes out s rest : Bytes} (hbytes : ∀ b ∈ bytes, Continues b)
    (h : Spells (bytes ++ out) s rest) : ∃ t, s = bytes ++ t ∧ Spells out t rest := by
  induction bytes generalizing s with
  | nil => exact ⟨s, rfl, h⟩
  | cons b bytes ih =>
    rw [List.forall_mem_cons] at hbytes
    generalize hall : b :: bytes ++ out = all at h
    cases h with
    | close => cases hall
    | escape this =>
      obtain ⟨_, -, this⟩ := this
      obtain ⟨c, -, rfl, -⟩ := escape_iff.1 this
      obtain ⟨b', t, hc, hno, -⟩ := Text.exists_encode_eq_cons c
      rw [hc, List.cons_append, List.cons_append, List.cons.injEq] at hall
      exact absurd (hall.1 ▸ hbytes.1) hno
    | plain _ _ _ this others =>
      cases hall
      obtain ⟨t, rfl, ht⟩ := ih hbytes.2 others
      exact ⟨t, this, ht⟩

/-! ### Texts -/

theorem spells_of_charWritten {c : Char} {t : List Char} {out s rest : Bytes}
    (hc : CharWritten c t) (h : Spells out s rest) :
    Spells (String.utf8EncodeChar c ++ out) (toBytes t ++ s) rest := by
  have hescape : ∀ u, CharWritten c ('\\' :: u) →
      Spells (String.utf8EncodeChar c ++ out) (toBytes ('\\' :: u) ++ s) rest := by
    intro u hu
    refine .escape ⟨toBytes u ++ s, ?_, escape_iff.2 ⟨c, u, rfl, hu, rfl⟩⟩ h
    rw [toBytes_cons, encode_backslash, List.append_assoc]
    rfl
  cases hc with
  | plain h' =>
    rw [toBytes_cons, toBytes_nil, List.append_nil]
    exact quoted_append (plainByte_of_mem_encode h') h
  | short h' => exact hescape _ (.short h')
  | code h' => exact hescape _ (.code h')
  | pair hc hhigh hlow => exact hescape _ (.pair hc hhigh hlow)

theorem not_spells_nil_escape {v s : Bytes} : ¬ Escape [] s v := by
  intro h
  obtain ⟨c, -, hc, -⟩ := escape_iff.1 h
  obtain ⟨b, t, hbytes, -⟩ := Text.exists_encode_eq_cons c
  cases hc.trans hbytes

/-- **The bytes of a text are spelled just as the text is written.** -/
theorem spells_toBytes_iff {text : List Char} {s rest : Bytes} :
    Spells (toBytes text) s rest ↔ ∃ t, TextWritten text t ∧ s = toBytes t ++ 0x22 :: rest := by
  constructor
  · intro h
    induction text generalizing s with
    | nil =>
      generalize hall : toBytes [] = all at h
      cases h with
      | close quote => exact ⟨[], .nil, quote⟩
      | escape this =>
        obtain ⟨_, -, this⟩ := this
        rw [toBytes_nil, List.nil_eq, List.append_eq_nil_iff] at hall
        obtain ⟨rfl, -⟩ := hall
        exact absurd this not_spells_nil_escape
      | plain => cases hall
    | cons c text ih =>
      obtain ⟨b, tail, hbytes, -, htail⟩ := Text.exists_encode_eq_cons c
      generalize hall : toBytes (c :: text) = all at h
      rw [toBytes_cons] at hall
      cases h with
      | close => rw [hbytes] at hall; cases hall
      | escape this others =>
        obtain ⟨_, hslash, this⟩ := this
        obtain ⟨c', t, rfl, ht, rfl⟩ := escape_iff.1 this
        -- a character at the front of bytes is the only one there
        have hfirst := Text.firstChar?_encode_append c (toBytes text)
        rw [hall, Text.firstChar?_encode_append] at hfirst
        cases hfirst
        obtain ⟨u, hu, rfl⟩ := ih others
        refine ⟨'\\' :: t ++ u, .cons ht hu, ?_⟩
        rw [toBytes_append, toBytes_cons, encode_backslash, List.append_assoc, List.append_assoc]
        exact hslash
      | plain hquote hslash hcontrol this others =>
        rw [hbytes] at hall
        cases hall
        -- one step takes the first byte of the character only; the others cannot be escaped
        obtain ⟨v, rfl, hv⟩ := spells_continues htail others
        obtain ⟨u, hu, rfl⟩ := ih hv
        have hplain := (isPlain_iff_of_encode hbytes).2 ⟨hquote, hslash, hcontrol⟩
        refine ⟨[c] ++ u, .cons (.plain hplain) hu, ?_⟩
        rw [toBytes_append, toBytes_cons, toBytes_nil, List.append_nil, hbytes, List.append_assoc]
        exact this
  · rintro ⟨t, h, rfl⟩
    induction h with
    | nil => exact .close rfl
    | cons this _ ih =>
      rw [toBytes_cons, toBytes_append, List.append_assoc]
      exact spells_of_charWritten this ih

/-- **A string is read as a text just if it is written as that text.** -/
theorem reads_readString_iff_written {text : String} {s rest : Bytes} :
    Reads readString text s rest ↔
      ∃ t, TextWritten text.toList t ∧ s = toBytes t ++ 0x22 :: rest := by
  rw [reads_readString_iff, ← spells_toBytes_iff]
  simp only [Text.ofBytes_eq_iff]
  constructor
  · rintro ⟨_, chars, ⟨rfl, rfl⟩, h⟩
    rwa [String.toList_ofList]
  · intro h
    exact ⟨_, _, ⟨rfl, String.ofList_toList.symm⟩, h⟩

/-! ### Any string -/

/-- **A string that is skipped may have any body.** -/
theorem skippedString_of_body {t : List Char} (h : StringBody t) (rest : Bytes) :
    SkippedString (toBytes t ++ 0x22 :: rest) rest := by
  induction h with
  | nil => exact skippedString_cons_iff.2 rfl
  | plain hplain _ ih =>
    obtain ⟨out, hout⟩ := ih
    rw [toBytes_cons, List.append_assoc]
    exact ⟨_, quoted_append (plainByte_of_mem_encode hplain) hout⟩
  | @short letter c u hshort _ ih =>
    obtain ⟨b, d, hb, hd⟩ := hshort.exists_bytes
    have hletter := letterByte?_eq_some_iff.2 ⟨letter, c, hshort, hb, hd⟩
    rw [toBytes_cons, toBytes_cons, encode_backslash, hb]
    refine skippedString_cons_iff.2 ⟨_, ?_, ih⟩
    exact .inl ⟨b, by rw [hletter]; rfl, rfl⟩
  | @code n digits u hdigits _ ih =>
    rw [toBytes_append, toBytes_cons, toBytes_cons, encode_backslash, encode_u]
    have hcode : Hex4 n (toBytes digits ++ (toBytes u ++ 0x22 :: rest)) _ :=
      hex4_iff.2 ⟨digits, hdigits, rfl⟩
    refine skippedString_cons_iff.2 ⟨_, .inr ⟨n, _, ?_, hcode⟩, ih⟩
    simp [Literal]

/-- **What stands between quotes is read as the text that it is written for**, and up to the closing
quote. -/
theorem reads_readString_iff_of_body {text : String} {t : List Char} (h : StringBody t)
    {rest rest' : Bytes} :
    Reads readString text (toBytes t ++ 0x22 :: rest) rest' ↔
      TextWritten text.toList t ∧ rest' = rest := by
  rw [reads_readString_iff_written]
  constructor
  · rintro ⟨t', ht', hsame⟩
    have hskip := reads_skipString_iff.2 (skippedString_of_body h rest)
    have hskip' := reads_skipString_iff.2
      (skippedString_of_body (stringBody_of_textWritten ht') rest')
    rw [← hsame] at hskip'
    obtain ⟨-, rfl⟩ := reads_unique hskip hskip'
    rw [List.append_cancel_right_eq, toBytes_inj] at hsame
    rw [hsame]
    exact ⟨ht', rfl⟩
  · rintro ⟨ht, rfl⟩
    exact ⟨t, ht, rfl⟩

/-- Nothing is written for two texts. -/
theorem textWritten_unique {s s' t : List Char} (h : TextWritten s t) (h' : TextWritten s' t) :
    s = s' := by
  have hread : ∀ s, TextWritten s t → Reads readString (String.ofList s) (toBytes t ++ [0x22]) [] :=
    fun s hs => reads_readString_iff_written.2 ⟨t, by rwa [String.toList_ofList], rfl⟩
  exact String.ofList_injective (reads_unique (hread s h) (hread s' h')).1

end CommitGate.Json
