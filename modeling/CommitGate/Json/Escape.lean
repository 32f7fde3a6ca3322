import CommitGate.Json.Reader

/-!
# Reading strings

A string is read in two steps: its escapes are undone, byte by byte, up to the closing quote; then
the bytes have to be text. A code point beyond `U+FFFF` is escaped as two surrogate halves, which
have to stand next to each other. A string that is only skipped has its escapes looked at and not
undone.
-/

namespace CommitGate.Json

/-- The value of a hexadecimal digit. -/
def hexValue? (b : UInt8) : Option Nat :=
  if 0x30 ≤ b ∧ b ≤ 0x39 then some (b.toNat - 0x30)
  else if 0x41 ≤ b ∧ b ≤ 0x46 then some (b.toNat - 0x37)
  else if 0x61 ≤ b ∧ b ≤ 0x66 then some (b.toNat - 0x57)
  else none

/-- The byte that a letter behind a backslash stands for. -/
def letterByte? (b : UInt8) : Option UInt8 :=
  if b = 0x22 ∨ b = 0x5C ∨ b = 0x2F then some b
  else if b = 0x62 then some 0x08
  else if b = 0x66 then some 0x0C
  else if b = 0x6E then some 0x0A
  else if b = 0x72 then some 0x0D
  else if b = 0x74 then some 0x09
  else none

/-- Four hexadecimal digits. -/
def readHex4 : Reader Nat
  | a :: b :: c :: d :: rest =>
    match hexValue? a, hexValue? b, hexValue? c, hexValue? d with
    | some w, some x, some y, some z =>
      .ok ⟨((w * 16 + x) * 16 + y) * 16 + z, rest, by simp only [List.length_cons]; omega⟩
    | _, _, _, _ => .error (.before .invalidEscape rest)
  | _ => .error (.before .endInString [])

/-- The second half of a surrogate pair, with the escape that it stands in. -/
def readSecondHalf : Reader Nat
  | [] => .error (.before .endInString [])
  | [b] =>
    if b = 0x5C then .error (.before .endInString []) else .error (.before .unfinishedPair [])
  | b :: c :: rest =>
    if b = 0x5C then
      if c = 0x75 then
        match readHex4 rest with
        | .error f => .error f
        | .ok r => .ok (r.lift (by simp only [List.length_cons]; omega))
      else .error (.before .unfinishedPair rest)
    else .error (.before .unfinishedPair (c :: rest))

/-- The code point of an escape by code, behind its `u`. -/
def readCode : Reader Char := fun s =>
  match readHex4 s with
  | .error f => .error f
  | .ok r =>
    if 0xDC00 ≤ r.value ∧ r.value ≤ 0xDFFF then .error (.before .loneSurrogate r.rest)
    else if 0xD800 ≤ r.value ∧ r.value ≤ 0xDBFF then
      match readSecondHalf r.rest with
      | .error f => .error f
      | .ok r' =>
        if 0xDC00 ≤ r'.value ∧ r'.value ≤ 0xDFFF then
          .ok ⟨Char.ofNat (0x10000 + (r.value - 0xD800) * 0x400 + (r'.value - 0xDC00)), r'.rest,
            Nat.lt_trans r'.shorter r.shorter⟩
        else .error (.before .loneSurrogate r'.rest)
    else .ok (r.map Char.ofNat)

/-- What an escape stands for, behind its backslash, in bytes. -/
def readEscape : Reader Bytes
  | [] => .error (.before .endInString [])
  | b :: s =>
    match letterByte? b with
    | some c => .ok ⟨[c], s, length_lt_cons b s⟩
    | none =>
      if b = 0x75 then
        match readCode s with
        | .error f => .error f
        | .ok r => .ok ((r.map String.utf8EncodeChar).lift (length_le_cons b s))
      else .error (.before .invalidEscape s)

/-- The bytes of a string behind its opening quote, with the escapes undone, and the closing
quote. -/
def readStringBytes : Reader Bytes := fun s =>
  go s [] s (length_le_self s)
where
  /-- The bytes from here on; those before them in reverse. -/
  go (s : Bytes) (acc : Bytes) (t : Bytes) (h : t.length ≤ s.length) :
      Except Fault (Taken Bytes s) :=
    match t with
    | [] => .error (.before .endInString [])
    | b :: u =>
      if b = 0x22 then .ok ⟨acc.reverse, u, h⟩
      else if b = 0x5C then
        match readEscape u with
        | .error f => .error f
        | .ok r =>
          have := r.shorter
          go s (r.value.reverse ++ acc) r.rest (by simp only [List.length_cons] at h; omega)
      else if b < 0x20 then .error (.before .controlCharacter u)
      else go s (b :: acc) u (Nat.le_of_succ_le h)
  termination_by t.length
  decreasing_by
    · simp only [List.length_cons]; omega
    · simp

/-- A string behind its opening quote. If its bytes are no text, the fault is reported as many bytes
before the closing quote's end as are left where the text breaks off. -/
def readString : Reader String := fun s =>
  match readStringBytes s with
  | .error f => .error f
  | .ok r =>
    match Text.ofBytes r.value with
    | (text, []) => .ok (r.map fun _ => String.ofList text)
    | (_, bad) => .error { cause := .invalidText, left := r.rest.length + bad.length }

/-- The text behind an escape that is skipped, behind its backslash. -/
def skipEscape : Reader Unit
  | [] => .error (.before .endInString [])
  | b :: s =>
    if (letterByte? b).isSome then .ok ⟨(), s, length_lt_cons b s⟩
    else if b = 0x75 then
      match readHex4 s with
      | .error f => .error f
      | .ok r => .ok ((r.map fun _ => ()).lift (length_le_cons b s))
    else .error (.before .invalidEscape s)

/-- The text behind a string that is skipped, behind its opening quote. -/
def skipString : Reader Unit := fun s =>
  go s s (length_le_self s)
where
  /-- Skips from here on. -/
  go (s : Bytes) (t : Bytes) (h : t.length ≤ s.length) : Except Fault (Taken Unit s) :=
    match t with
    | [] => .error (.before .endInString [])
    | b :: u =>
      if b = 0x22 then .ok ⟨(), u, h⟩
      else if b = 0x5C then
        match skipEscape u with
        | .error f => .error f
        | .ok r =>
          have := r.shorter
          go s r.rest (by simp only [List.length_cons] at h; omega)
      else if b < 0x20 then .error (.before .controlCharacter (b :: u))
      else go s u (Nat.le_of_succ_le h)
  termination_by t.length
  decreasing_by
    · simp only [List.length_cons]; omega
    · simp

end CommitGate.Json
