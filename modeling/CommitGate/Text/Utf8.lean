/-!
# Text as bytes

The bytes of a text in UTF-8, and the text that a run of bytes begins with. Bytes are read character
by character; what stops the reading is the first place where no character stands in its shortest
form, so the part that was read is the longest valid beginning.
-/

namespace CommitGate

/-- A run of bytes. -/
abbrev Bytes := List UInt8

namespace Text

/-- The bytes of a text. -/
def toBytes (s : List Char) : Bytes := s.flatMap String.utf8EncodeChar

/-- The number of bytes of a text. -/
def byteLength (s : List Char) : Nat := (toBytes s).length

/-- What the first byte of a character tells: the number of bytes that follow it, its own share of
the code point, and the least code point that needs this many bytes. -/
def lead? (b : UInt8) : Option (Nat × Nat × Nat) :=
  if b < 0x80 then some (0, b.toNat, 0)
  else if b < 0xC0 then none
  else if b < 0xE0 then some (1, b.toNat - 0xC0, 0x80)
  else if b < 0xF0 then some (2, b.toNat - 0xE0, 0x800)
  else if b < 0xF8 then some (3, b.toNat - 0xF0, 0x10000)
  else none

/-- The code point once `n` more bytes are taken in, and the bytes behind them. -/
def continue? : (n code : Nat) → Bytes → Option (Nat × Bytes)
  | 0, code, s => some (code, s)
  | _ + 1, _, [] => none
  | n + 1, code, b :: s =>
    if 0x80 ≤ b ∧ b < 0xC0 then continue? n (code * 64 + (b.toNat - 0x80)) s else none

/-- The character with a code point, if there is one and the code point is at least `least`. -/
def charOf? (least code : Nat) : Option Char :=
  if code.isValidChar ∧ least ≤ code then some (Char.ofNat code) else none

/-- The first character of the bytes and what follows it. -/
def firstChar? : Bytes → Option (Char × Bytes)
  | [] => none
  | b :: s => do
    let (n, share, least) ← lead? b
    let (code, rest) ← continue? n share s
    let c ← charOf? least code
    return (c, rest)

theorem length_le_of_continue? {n code result : Nat} {s rest : Bytes}
    (h : continue? n code s = some (result, rest)) : rest.length ≤ s.length := by
  induction n generalizing code s with
  | zero => simp only [continue?, Option.some.injEq, Prod.mk.injEq] at h; simp [h.2]
  | succ n ih =>
    cases s with
    | nil => simp [continue?] at h
    | cons b s =>
      simp only [continue?] at h
      split at h
      · have := ih h
        simp only [List.length_cons]; omega
      · cases h

theorem length_lt_of_firstChar? {s rest : Bytes} {c : Char} (h : firstChar? s = some (c, rest)) :
    rest.length < s.length := by
  cases s with
  | nil => simp [firstChar?] at h
  | cons b s =>
    simp only [firstChar?, Option.bind_eq_bind, Option.bind_eq_some_iff] at h
    obtain ⟨⟨n, share, least⟩, -, ⟨code, tail⟩, htail, c, -, h⟩ := h
    cases h
    exact Nat.lt_succ_of_le (length_le_of_continue? htail)

/-- The longest text that the bytes begin with, and the bytes behind it. -/
def ofBytes (s : Bytes) : List Char × Bytes :=
  match h : firstChar? s with
  | none => ([], s)
  | some (c, rest) =>
    have := length_lt_of_firstChar? h
    (c :: (ofBytes rest).1, (ofBytes rest).2)
termination_by s.length

/-- The text that the bytes spell, if they spell one to their end. -/
def ofBytes? (s : Bytes) : Option (List Char) :=
  if (ofBytes s).2 = [] then some (ofBytes s).1 else none

end Text

end CommitGate
