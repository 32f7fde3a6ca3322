import CommitGate.Json.Escape
import CommitGate.Json.Numeral

/-!
# Skipping values

The text behind a value that nobody wants. The value has to be well-formed JSON, to any depth; its
strings need not be text and its numbers may have any size. The brackets that are open are kept in a
stack, innermost first: after each complete part the stack says what may follow.
-/

namespace CommitGate.Json

/-- An open bracket. -/
inductive Frame where
  | list
  | object
deriving DecidableEq, Repr

namespace Frame

/-- The byte that closes the bracket. -/
def closer : Frame → UInt8
  | list => 0x5D
  | object => 0x7D

/-- The fault when the text ends inside the bracket. -/
def ended : Frame → Cause
  | list => .endInList
  | object => .endInObject

/-- The fault when neither a comma nor the closing bracket follows a part. -/
def unseparated : Frame → Cause
  | list => .expectedCommaOrBracket
  | object => .expectedCommaOrBrace

end Frame

/-- The colon behind a key. -/
def readColon : Reader Unit := fun s =>
  match h : skipBlanks s with
  | [] => .error (.upon .endInObject [])
  | b :: t =>
    if b = 0x3A then .ok ⟨(), t, length_lt_of_skipBlanks h⟩
    else .error (.upon .expectedColon (b :: t))

/-- The text behind the key and the colon of a member that is skipped. -/
def skipKey : Reader Unit := fun s =>
  match h : skipBlanks s with
  | [] => .error (.upon .endInObject [])
  | b :: t =>
    have ht := length_lt_of_skipBlanks h
    if b = 0x22 then
      match skipString t with
      | .error f => .error f
      | .ok r =>
        match readColon r.rest with
        | .error f => .error f
        | .ok r' => .ok ⟨(), r'.rest, by
            have h1 := r.shorter
            have h2 := r'.shorter
            omega⟩
    else .error (.upon .keyNotString (b :: t))

/-- Where the next value inside a bracket starts. -/
def enter (frame : Frame) (s : Bytes) : Except Fault (Suffix s) :=
  match frame with
  | .list => .ok (.whole s)
  | .object =>
    match skipKey s with
    | .error f => .error f
    | .ok r => .ok ⟨r.rest, Nat.le_of_lt r.shorter⟩

/-- What follows inside the open brackets: the next value, with the brackets that are still open, or
the end of the outermost one. A comma is taken only behind a complete part. -/
def settle : (stack : List Frame) → (complete : Bool) → (s : Bytes) →
    Except Fault (List Frame × Suffix s)
  | [], _, s => .ok ([], .whole s)
  | frame :: stack, complete, s =>
    match h : skipBlanks s with
    | [] => .error (.upon frame.ended [])
    | b :: t =>
      have ht := length_tail_le_of_skipBlanks h
      if complete && b == 0x2C then
        match enter frame t with
        | .error f => .error f
        | .ok u => .ok (frame :: stack, ⟨u.1, Nat.le_trans u.2 ht⟩)
      else if b == frame.closer then
        match settle stack true t with
        | .error f => .error f
        | .ok (open_, u) => .ok (open_, ⟨u.1, Nat.le_trans u.2 ht⟩)
      else if complete then .error (.upon frame.unseparated (b :: t))
      else
        match enter frame (b :: t) with
        | .error f => .error f
        | .ok u => .ok (frame :: stack, ⟨u.1, Nat.le_trans u.2 (length_le_of_skipBlanks h)⟩)

/-- One word, number or string, or one opening bracket, which is handed back. -/
def skipToken : Reader (Option Frame) := fun s =>
  match h : skipBlanks s with
  | [] => .error (.upon .endInValue [])
  | b :: t =>
    have ht := length_lt_of_skipBlanks h
    let word (letters : Bytes) : Except Fault (Taken (Option Frame) s) :=
      match readWord letters t with
      | .error f => .error f
      | .ok u => .ok ⟨none, u.1, Nat.lt_of_le_of_lt u.2 ht⟩
    if b = 0x6E then word [0x75, 0x6C, 0x6C]
    else if b = 0x74 then word [0x72, 0x75, 0x65]
    else if b = 0x66 then word [0x61, 0x6C, 0x73, 0x65]
    else if b = 0x22 then
      match skipString t with
      | .error f => .error f
      | .ok r => .ok ((r.map fun _ => none).lift (length_tail_le_of_skipBlanks h))
    else if b = 0x5B then .ok ⟨some .list, t, ht⟩
    else if b = 0x7B then .ok ⟨some .object, t, ht⟩
    else if b = 0x2D || isDigit b then
      match skipNumber (b :: t) with
      | .error f => .error f
      | .ok r => .ok ((r.map fun _ => none).lift (length_le_of_skipBlanks h))
    else .error (.upon .expectedValue (b :: t))

/-- The text behind a value that is skipped. -/
def skipValue : Reader Unit := fun s =>
  go s [] s (length_le_self s)
where
  /-- Skips the value that starts here and the rest of the open brackets around it. -/
  go (s : Bytes) (stack : List Frame) (t : Bytes) (h : t.length ≤ s.length) :
      Except Fault (Taken Unit s) :=
    match skipToken t with
    | .error f => .error f
    | .ok r =>
      have hr := r.shorter
      match settle (r.value.toList ++ stack) r.value.isNone r.rest with
      | .error f => .error f
      | .ok ([], u) => .ok ⟨(), u.1, by have := u.2; omega⟩
      | .ok (stack, u) =>
        have hu := u.2
        go s stack u.1 (by omega)
  termination_by t.length
  decreasing_by omega

end CommitGate.Json
