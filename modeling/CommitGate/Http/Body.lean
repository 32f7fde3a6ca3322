import CommitGate.Http.Head

/-!
# Bodies of responses

Where the body of a response ends: after a number of bytes, after its last chunk, or with the
stream. The head decides which. Once that is decided the body is a function of the bytes behind the
head: `none` if they end too early or are no chunks.
-/

namespace CommitGate.Http

/-- Where a body ends. -/
inductive Framing where
  | length (n : Nat)
  | chunked
  | toEnd
deriving DecidableEq, Repr

/-! ### Chunks -/

/-- The value of a hexadecimal digit. -/
def hexDigitValue? (b : UInt8) : Option Nat :=
  if isDigitByte b then some (b.toNat - 0x30)
  else if 0x61 ≤ b && b ≤ 0x66 then some (b.toNat - 0x57)
  else if 0x41 ≤ b && b ≤ 0x46 then some (b.toNat - 0x37)
  else none

/-- The number that hexadecimal digits name. -/
def hexValue (digits : Bytes) : Nat :=
  digits.foldl (fun n b => n * 16 + (hexDigitValue? b).getD 0) 0

/-- What is behind a carriage return and a line feed. -/
def dropLineEnd? : Bytes → Option Bytes
  | 0x0D :: 0x0A :: rest => some rest
  | _ => none

/-- The size of the next chunk and what is behind the line that says it. Behind the size, blanks and
an extension may stand, which says nothing here. -/
def readChunkSize? (s : Bytes) : Option (Nat × Bytes) :=
  let digits := s.takeWhile fun b => (hexDigitValue? b).isSome
  let size := hexValue digits
  let rest := (s.drop digits.length).dropWhile isSpaceByte
  let rest :=
    match rest with
    | 0x3B :: rest => rest.dropWhile fun b => b != 0x0D && b != 0x0A
    | rest => rest
  if digits.isEmpty || Nat.pow 2 64 ≤ size then none
  else (dropLineEnd? rest).map fun rest => (size, rest)

theorem length_dropLineEnd? {s rest : Bytes} (h : dropLineEnd? s = some rest) :
    rest.length < s.length := by
  unfold dropLineEnd? at h
  split at h
  · simp only [Option.some.injEq] at h
    rw [← h, List.length_cons, List.length_cons]; omega
  · cases h

theorem length_lt_of_readChunkSize? {s rest : Bytes} {size : Nat}
    (h : readChunkSize? s = some (size, rest)) : rest.length < s.length := by
  unfold readChunkSize? at h
  simp only at h
  split at h
  · cases h
  · simp only [Option.map_eq_some_iff, Prod.mk.injEq] at h
    obtain ⟨tail, htail, -, rfl⟩ := h
    have h1 := length_dropLineEnd? htail
    have h2 (p : UInt8 → Bool) (t : Bytes) : (t.dropWhile p).length ≤ t.length :=
      (List.dropWhile_sublist p).length_le
    have h3 := h2 isSpaceByte (s.drop (s.takeWhile fun b => (hexDigitValue? b).isSome).length)
    rw [List.length_drop] at h3
    split at h1
    · next t ht =>
      have h4 := h2 (fun b => b != 0x0D && b != 0x0A) t
      rw [ht, List.length_cons] at h3
      omega
    · omega

/-- The lines up to an empty one, at most so many, and what is behind that. A line ends with a
carriage return and a line feed. -/
def readLines? : (room : Nat) → Bytes → Option (List Bytes × Bytes)
  | room, s =>
    let line := s.takeWhile (· != 0x0D)
    match dropLineEnd? (s.drop line.length) with
    | none => none
    | some rest =>
      if line.isEmpty then some ([], rest)
      else
        match room with
        | 0 => none
        | room + 1 => (readLines? room rest).map fun (lines, behind) => (line :: lines, behind)

/-- Whether lines may follow the last chunk. They hold fields, not more than lines; a line feed by
itself ends a field too, and what is behind an empty field is not looked at. -/
def areFields (lines : List Bytes) : Bool :=
  let fields := (lines.flatMap fun line => line.splitOnP (· == 0x0A)).takeWhile fun f => !f.isEmpty
  fields.length ≤ lines.length && fields.all fun f => (HeaderField.ofLine? f).isSome

/-- What is behind the lines that may follow the last chunk. -/
def dropTrailers? (s : Bytes) : Option Bytes :=
  (readLines? Head.maxFields s).bind fun (lines, rest) =>
    if areFields lines then some rest else none

/-- The chunks up to the last one, which is empty, put together. The fields behind it say nothing
here. -/
def readChunks? (s : Bytes) : Option Bytes :=
  match h : readChunkSize? s with
  | none => none
  | some (0, rest) => (dropTrailers? rest).map fun _ => []
  | some (n + 1, rest) =>
    have := length_lt_of_readChunkSize? h
    if rest.length < n + 1 then none
    else
      match h' : dropLineEnd? (rest.drop (n + 1)) with
      | none => none
      | some next =>
        have : next.length < s.length := by
          have := length_dropLineEnd? h'
          rw [List.length_drop] at this
          omega
        (readChunks? next).map fun more => rest.take (n + 1) ++ more
termination_by s.length

/-! ### Framing -/

/-- The items of a list that is separated by commas. -/
def commaItems (s : Bytes) : List Bytes := (s.splitOnP (· == 0x2C)).map trimBytes

/-- The greatest number of bytes that a body may be said to have. -/
def maxBodyLength : Nat := Nat.pow 2 64 - 3

/-- The number of bytes that a text says a body has. -/
def lengthOfText? (s : Bytes) : Option Nat :=
  if s.isEmpty || !s.all isDigitByte || maxBodyLength < decimalValue s then none
  else some (decimalValue s)

/-- The one length that all values give, each of which may be a list. -/
def agreedLength? (values : List Bytes) : Option Nat :=
  match (values.flatMap commaItems).map lengthOfText? with
  | some n :: others => if others.all (· == some n) then some n else none
  | _ => none

/-- Whether the last coding that the values name is that of chunks. -/
def endsChunked (values : List Bytes) : Bool :=
  match values.getLast? with
  | none => false
  | some value =>
    value.all (· < 0x80) && ((commaItems value).getLast?.map lowerText) == some "chunked"

/-- Whether a status is one of a response that never has a body. -/
def isBodiless (status : Nat) : Bool := status == 101 || status == 204 || status == 304

/-- Where the body behind a head ends, or `none` if what the head says of it is malformed. -/
def Head.framing? (head : Head) : Option Framing :=
  let codings := head.values "transfer-encoding"
  let lengths := head.values "content-length"
  if isBodiless head.status then some (.length 0)
  else if !codings.isEmpty then
    if head.isOld then none else some (if endsChunked codings then .chunked else .toEnd)
  else if lengths.isEmpty then some .toEnd
  else (agreedLength? lengths).map .length

/-- The body at the front of the bytes. -/
def Framing.read? (framing : Framing) (s : Bytes) : Option Bytes :=
  match framing with
  | length n => if n ≤ s.length then some (s.take n) else none
  | chunked => readChunks? s
  | toEnd => some s

end CommitGate.Http
