import CommitGate.Text.Utf8

/-!
# Heads of responses

What a response says before its body: a status line and header fields, each on a line of its own, up
to an empty line. A line ends with a line feed, perhaps behind a carriage return; a carriage return
anywhere else is malformed. Reading gives `none` for a malformed head and for one without an end,
which a server that closes the connection leaves behind; neither is ever answered in part.
-/

namespace CommitGate.Http

/-- A header field: its name in lower case, and its value without blanks at the ends. -/
structure HeaderField where
  name : String
  value : Bytes
deriving DecidableEq, Repr

/-- The head of a response. -/
structure Head where
  /-- Whether the server speaks version 1.0 and not 1.1. -/
  isOld : Bool
  status : Nat
  /-- The header fields, in order. -/
  fields : List HeaderField
deriving DecidableEq, Repr

/-! ### Bytes -/

/-- Whether a byte is a space or a tab. -/
def isSpaceByte (b : UInt8) : Bool := b == 0x20 || b == 0x09

/-- Whether a byte is a decimal digit. -/
def isDigitByte (b : UInt8) : Bool := 0x30 ≤ b && b ≤ 0x39

/-- Whether a byte may stand in a value or a reason: all but control characters, and the tab. -/
def isValueByte (b : UInt8) : Bool := b == 0x09 || (0x20 ≤ b && b != 0x7F)

/-- Whether a byte may stand in a name. -/
def isNameByte (b : UInt8) : Bool :=
  let c := Char.ofNat b.toNat
  b < 0x80 && (c.isAlphanum || "!#$%&'*+-.^_`|~".toList.contains c)

/-- The text of bytes that are all ASCII, in lower case. -/
def lowerText (s : Bytes) : String := String.ofList (s.map fun b => (Char.ofNat b.toNat).toLower)

/-- The bytes without spaces and tabs at their ends. -/
def trimBytes (s : Bytes) : Bytes :=
  ((s.dropWhile isSpaceByte).reverse.dropWhile isSpaceByte).reverse

/-- The number that digits name in decimal. -/
def decimalValue (digits : Bytes) : Nat :=
  digits.foldl (fun n b => n * 10 + (b.toNat - 0x30)) 0

/-! ### Lines -/

/-- The first line without its end, and what is behind it. -/
def takeLine? (s : Bytes) : Option (Bytes × Bytes) :=
  let line := s.takeWhile (· != 0x0A)
  match s.drop line.length with
  | [] => none
  | _ :: rest => some (if line.getLast? = some 0x0D then line.dropLast else line, rest)

theorem length_lt_of_takeLine? {s line rest : Bytes} (h : takeLine? s = some (line, rest)) :
    rest.length < s.length := by
  unfold takeLine? at h
  simp only at h
  split at h
  · cases h
  · next b t ht =>
    simp only [Option.some.injEq, Prod.mk.injEq] at h
    have := congrArg List.length ht
    rw [List.length_drop, List.length_cons] at this
    rw [← h.2]; omega

/-- What is behind the empty lines at the front. -/
def dropEmptyLines (s : Bytes) : Bytes :=
  match h : takeLine? s with
  | some ([], rest) =>
    have := length_lt_of_takeLine? h
    dropEmptyLines rest
  | _ => s
termination_by s.length

theorem length_dropEmptyLines_le (s : Bytes) : (dropEmptyLines s).length ≤ s.length := by
  fun_induction dropEmptyLines s with
  | case1 s rest h hlt ih => omega
  | case2 s h => exact Nat.le_refl _

/-- A version and a status, from the first line. The reason behind the status may be left out. -/
def readStatusLine? (line : Bytes) : Option (Bool × Nat) :=
  match (Text.toBytes "HTTP/1.".toList).isPrefixOf? line with
  | some (minor :: space :: rest) =>
    let digits := rest.take 3
    let status := decimalValue digits
    let isReason :=
      match rest.drop 3 with
      | [] => true
      | b :: reason => b == 0x20 && reason.all isValueByte
    if (minor == 0x30 || minor == 0x31) && space == 0x20 && digits.length == 3 &&
        digits.all isDigitByte && 100 ≤ status && isReason then
      some (minor == 0x30, status)
    else none
  | _ => none

/-- A header field, from its line. -/
def HeaderField.ofLine? (line : Bytes) : Option HeaderField :=
  let name := line.takeWhile isNameByte
  match line.drop name.length with
  | 0x3A :: value =>
    if !name.isEmpty && value.all isValueByte then
      some { name := lowerText name, value := trimBytes value }
    else none
  | _ => none

/-- The header fields up to an empty line, at most `room` of them, and what is behind that line. -/
def readFields? : (room : Nat) → Bytes → Option (List HeaderField × Bytes)
  | room, s =>
    match takeLine? s with
    | none => none
    | some ([], rest) => some ([], rest)
    | some (line, rest) =>
      match room with
      | 0 => none
      | room + 1 =>
        match HeaderField.ofLine? line, readFields? room rest with
        | some field, some (fields, rest) => some (field :: fields, rest)
        | _, _ => none

theorem length_lt_of_readFields? {room : Nat} {s rest : Bytes} {fields : List HeaderField}
    (h : readFields? room s = some (fields, rest)) : rest.length < s.length := by
  induction room generalizing s fields rest with
  | zero =>
    unfold readFields? at h
    split at h
    · cases h
    · next hline =>
      simp only [Option.some.injEq, Prod.mk.injEq] at h
      exact h.2 ▸ length_lt_of_takeLine? hline
    · cases h
  | succ room ih =>
    unfold readFields? at h
    split at h
    · cases h
    · next hline =>
      simp only [Option.some.injEq, Prod.mk.injEq] at h
      exact h.2 ▸ length_lt_of_takeLine? hline
    · next _ hline =>
      simp only at h
      split at h
      · next hrest =>
        simp only [Option.some.injEq, Prod.mk.injEq] at h
        have := length_lt_of_takeLine? hline
        have := ih hrest
        rw [← h.2]; omega
      · cases h

namespace Head

/-- The greatest number of header fields. -/
def maxFields : Nat := 100

/-- The head at the front of the bytes, and what is behind it. Empty lines may stand before it. -/
def read? (s : Bytes) : Option (Head × Bytes) :=
  match takeLine? (dropEmptyLines s) with
  | none => none
  | some (line, rest) =>
    match readStatusLine? line, readFields? maxFields rest with
    | some (isOld, status), some (fields, rest) => some ({ isOld, status, fields }, rest)
    | _, _ => none

theorem length_lt_of_read? {s rest : Bytes} {head : Head} (h : read? s = some (head, rest)) :
    rest.length < s.length := by
  unfold read? at h
  split at h
  · cases h
  · next hline =>
    split at h
    · next hfields =>
      simp only [Option.some.injEq, Prod.mk.injEq] at h
      have := length_lt_of_takeLine? hline
      have := length_lt_of_readFields? hfields
      have := length_dropEmptyLines_le s
      rw [← h.2]; omega
    · cases h

/-- The values of the fields with a name, in order. -/
def values (head : Head) (name : String) : List Bytes :=
  (head.fields.filter fun f => f.name == name).map HeaderField.value

end Head

end CommitGate.Http
