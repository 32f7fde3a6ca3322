import CommitGate.Json.Skip

/-!
# Decoders

A decoder gets content of one type out of JSON in two ways: from the front of a text, while it is
read, and from a value. Decoders are put together from a few: for strings, for values that may be
`null`, for lists, for records and for any value at all.

A record is an object with known members; other members are skipped. It may also stand as a list of
the contents of its fields in their declared order.
-/

namespace CommitGate.Json

/-- The two ways to get content of type `α` out of JSON. -/
structure Decoder (α : Type) where
  read : Reader α
  ofValue : Value → Except Cause α

/-! ### Single values -/

/-- What a value is, for a refusal. -/
def Value.found : Value → Found
  | null => .null
  | boolean b => .boolean b
  | number n => .number n
  | string s => .string s
  | list _ => .list
  | object _ => .object

/-- A word, number or string at the front of the text. -/
def readPlain : Reader Value := fun s =>
  match s with
  | [] => .error (.upon .expectedValue [])
  | b :: t =>
    let word (letters : Bytes) (value : Value) : Except Fault (Taken Value (b :: t)) :=
      match readWord letters t with
      | .error f => .error f
      | .ok u => .ok ⟨value, u.1, Nat.lt_succ_of_le u.2⟩
    if b = 0x6E then word [0x75, 0x6C, 0x6C] .null
    else if b = 0x74 then word [0x72, 0x75, 0x65] (.boolean true)
    else if b = 0x66 then word [0x61, 0x6C, 0x73, 0x65] (.boolean false)
    else if b = 0x22 then
      match readString t with
      | .error f => .error f
      | .ok r => .ok ((r.map .string).lift (length_le_cons b t))
    else if b = 0x2D || isDigit b then
      match readNumber (b :: t) with
      | .error f => .error f
      | .ok r => .ok (r.map .number)
    else .error (.upon .expectedValue (b :: t))

/-- The fault of a text that starts with something else than was wanted. Words, numbers and strings
are read to their end, so a fault inside them comes first. -/
def mismatch (wanted : Wanted) (s : Bytes) : Fault :=
  match s with
  | [] => .upon .expectedValue []
  | b :: t =>
    if b = 0x5B then .before (.wrongKind .list wanted) (b :: t)
    else if b = 0x7B then .before (.wrongKind .object wanted) (b :: t)
    else
      match readPlain (b :: t) with
      | .error f => f
      | .ok r => .before (.wrongKind r.value.found wanted) r.rest

namespace Decoder

/-- Computes from the content. -/
def map {α β : Type} (f : α → β) (d : Decoder α) : Decoder β where
  read s := (d.read s).map (Taken.map f)
  ofValue v := (d.ofValue v).map f

/-- A string. -/
def string : Decoder String where
  read s :=
    match h : skipBlanks s with
    | [] => .error (.upon .endInValue [])
    | b :: t =>
      if b = 0x22 then
        match readString t with
        | .error f => .error f
        | .ok r => .ok (r.lift (length_tail_le_of_skipBlanks h))
      else .error (mismatch .string (b :: t))
  ofValue
    | .string s => .ok s
    | v => .error (.wrongKind v.found .string)

/-- Content that may be `null` instead. -/
def orNull {α : Type} (d : Decoder α) : Decoder (Option α) where
  read s :=
    match h : skipBlanks s with
    | [] => .error (.upon .endInValue [])
    | b :: t =>
      if b = 0x6E then
        match readWord [0x75, 0x6C, 0x6C] t with
        | .error f => .error f
        | .ok u => .ok ⟨none, u.1, Nat.lt_of_le_of_lt u.2 (length_lt_of_skipBlanks h)⟩
      else
        match d.read (b :: t) with
        | .error f => .error f
        | .ok r => .ok ((r.map some).lift (length_le_of_skipBlanks h))
  ofValue
    | .null => .ok none
    | v => (d.ofValue v).map some

/-! ### Lists -/

/-- The contents of values, in order, up to the first that is refused. -/
def ofValues {α : Type} (d : Decoder α) : List Value → Except Cause (List α)
  | [] => .ok []
  | v :: vs =>
    match d.ofValue v with
    | .error c => .error c
    | .ok a => (ofValues d vs).map (a :: ·)

/-- A list. -/
def list {α : Type} (d : Decoder α) : Decoder (List α) where
  read s :=
    match h : skipBlanks s with
    | [] => .error (.upon .endInValue [])
    | b :: t =>
      if b = 0x5B then
        match readItems d.read t with
        | .error f => .error f
        | .ok r => .ok (r.lift (length_tail_le_of_skipBlanks h))
      else .error (mismatch .list (b :: t))
  ofValue
    | .list items => d.ofValues items
    | v => .error (.wrongKind v.found .list)

end Decoder

/-! ### Members of objects -/

/-- In an object: the key of the next member and where its colon is expected, or `none` in front of
the closing brace. A fault here belongs to no member that is known. -/
def nextKey (first : Bool) (s : Bytes) : Except Fault (Option (Taken String s)) :=
  let key (t : Bytes) (h : t.length < s.length) : Except Fault (Option (Taken String s)) :=
    match readString t with
    | .error f => .error (f.within .unknown)
    | .ok r => .ok (some (r.lift (Nat.le_of_lt h)))
  match h : skipBlanks s with
  | [] => .error ((Fault.upon .endInObject []).within .unknown)
  | b :: t =>
    if b = 0x7D then .ok none
    else if first then
      if b = 0x22 then key t (length_lt_of_skipBlanks h)
      else .error ((Fault.upon .keyNotString (b :: t)).within .unknown)
    else if b = 0x2C then
      match h' : skipBlanks t with
      | [] => .error ((Fault.upon .endInValue []).within .unknown)
      | c :: u =>
        if c = 0x22 then
          key u (Nat.lt_trans (length_lt_of_skipBlanks h') (length_lt_of_skipBlanks h))
        else if c = 0x7D then .error ((Fault.upon .trailingComma (c :: u)).within .unknown)
        else .error ((Fault.upon .keyNotString (c :: u)).within .unknown)
    else .error ((Fault.upon .expectedCommaOrBrace (b :: t)).within .unknown)

/-- The bytes behind the blanks and the closing brace, as far as they come next. -/
def afterBrace (s : Bytes) : Bytes :=
  match skipBlanks s with
  | [] => []
  | b :: t => if b = 0x7D then t else b :: t

/-- The closing brace of an object whose members have all been read. -/
def closeObject : Reader Unit := fun s =>
  match h : skipBlanks s with
  | [] => .error (.upon .endInObject [])
  | b :: t =>
    if b = 0x7D then .ok ⟨(), t, length_lt_of_skipBlanks h⟩
    else .error (.upon (if b = 0x2C then .trailingComma else .trailingCharacters) (b :: t))

/-! ### Any value -/

/-- The members of an object and its closing brace, each value read by `item`. Of members with one
key the last counts. -/
def readMembers (item : Reader Value) : Reader (List (String × Value)) := fun s =>
  go s true [] s (length_le_self s)
where
  /-- The members from here on, put among those before them. -/
  go (s : Bytes) (first : Bool) (acc : List (String × Value)) (t : Bytes)
      (h : t.length ≤ s.length) : Except Fault (Taken (List (String × Value)) s) :=
    match nextKey first t with
    | .error f => .error f
    | .ok none =>
      match closeObject t with
      | .error f => .error f
      | .ok r => .ok ⟨acc, r.rest, Nat.lt_of_lt_of_le r.shorter h⟩
    | .ok (some key) =>
      match readColon key.rest with
      | .error f => .error f
      | .ok colon =>
        match item colon.rest with
        | .error f => .error (f.within (.field key.value))
        | .ok r =>
          have : r.rest.length < t.length :=
            Nat.lt_trans r.shorter (Nat.lt_trans colon.shorter key.shorter)
          go s false (Value.insertMember key.value r.value acc) r.rest (by omega)
  termination_by t.length

/-- Any value, with at most `depth` brackets inside each other. -/
def readValue : (depth : Nat) → Reader Value
  | depth, s =>
    match h : skipBlanks s with
    | [] => .error (.upon .endInValue [])
    | b :: t =>
      have ht := length_tail_le_of_skipBlanks h
      if b = 0x5B then
        match depth with
        | 0 => .error (.upon .tooDeep (b :: t))
        | depth + 1 =>
          match readItems (readValue depth) t with
          | .error f => .error f
          | .ok r => .ok ((r.map .list).lift ht)
      else if b = 0x7B then
        match depth with
        | 0 => .error (.upon .tooDeep (b :: t))
        | depth + 1 =>
          match readMembers (readValue depth) t with
          | .error f => .error f
          | .ok r => .ok ((r.map .object).lift ht)
      else
        match readPlain (b :: t) with
        | .error f => .error f
        | .ok r => .ok (r.lift (length_le_of_skipBlanks h))

/-- The number of brackets that may stand inside each other around a value that is kept. -/
def maxDepth : Nat := 127

/-- Any value, standing inside `outer` brackets of what is around it. -/
def Decoder.any (outer : Nat) : Decoder Value where
  read := readValue (maxDepth - outer)
  ofValue := .ok

/-! ### Records -/

/-- A field of a record that is being gathered in a value of type `σ`. -/
structure Field (σ : Type) where
  name : String
  /-- Whether the field has been read. -/
  isRead : σ → Bool
  /-- The content of the field, as what it does to the gathered value. -/
  content : Decoder (σ → σ)

/-- How a record of type `α` is gathered from its fields. -/
structure Shape (σ α : Type) where
  name : String
  /-- The fields, in the order in which they stand if the record is a list. -/
  fields : List (Field σ)
  start : σ
  /-- Whether fields at the end may be left out if the record is a list. -/
  mayStopEarly : Bool
  /-- The record, or what is missing. -/
  finish : σ → Except Cause α

namespace Shape

variable {σ α : Type}

/-- The field with a key. -/
def field? (shape : Shape σ α) (key : String) : Option (Field σ) :=
  shape.fields.find? fun f => f.name == key

/-- The record once all its members are read, and its closing brace. -/
def close (shape : Shape σ α) (st : σ) : Reader α := fun s =>
  match closeObject s with
  | .error f => .error f
  | .ok r =>
    match shape.finish st with
    | .error c => .error (.before c r.rest)
    | .ok a => .ok (r.map fun _ => a)

/-- The members of a record that stands as an object, behind its opening brace. -/
def readFields (shape : Shape σ α) : Reader α := fun s =>
  go s true shape.start s (length_le_self s)
where
  /-- The members from here on. -/
  go (s : Bytes) (first : Bool) (st : σ) (t : Bytes) (h : t.length ≤ s.length) :
      Except Fault (Taken α s) :=
    match nextKey first t with
    | .error f => .error f
    | .ok none =>
      match shape.close st t with
      | .error f => .error f
      | .ok r => .ok (r.lift h)
    | .ok (some key) =>
      match shape.field? key.value with
      | some field =>
        if field.isRead st then
          .error (.before (.repeatedField field.name) (afterBrace key.rest))
        else
          match readColon key.rest with
          | .error f => .error f
          | .ok colon =>
            match field.content.read colon.rest with
            | .error f => .error (f.within (.field key.value))
            | .ok r =>
              have : r.rest.length < t.length :=
                Nat.lt_trans r.shorter (Nat.lt_trans colon.shorter key.shorter)
              go s false (r.value st) r.rest (by omega)
      | none =>
        match readColon key.rest with
        | .error f => .error f
        | .ok colon =>
          match skipValue colon.rest with
          | .error f => .error (f.within (.field key.value))
          | .ok r =>
            have : r.rest.length < t.length :=
              Nat.lt_trans r.shorter (Nat.lt_trans colon.shorter key.shorter)
            go s false st r.rest (by omega)
  termination_by t.length

/-- The record once the elements that are there are read, and the closing bracket. -/
def closePositions (shape : Shape σ α) (st : σ) : Reader α := fun s =>
  match closeList s with
  | .error f => .error f
  | .ok r =>
    match shape.finish st with
    | .error c => .error (.before c r.rest)
    | .ok a => .ok (r.map fun _ => a)

/-- The refusal of a list that has only `n` of the elements. -/
def tooShort (shape : Shape σ α) (n : Nat) : Cause :=
  .wrongLength n (.exactly shape.name shape.fields.length)

/-- The elements of a record that stands as a list, from field number `i` on. -/
def readPositions (shape : Shape σ α) : (i : Nat) → List (Field σ) → σ → Reader α
  | _, [], st => shape.closePositions st
  | i, field :: fields, st => fun s =>
    match nextItem (i == 0) s with
    | .error f => .error f
    | .ok none =>
      if shape.mayStopEarly then shape.closePositions st s
      else
        match closeList s with
        | .error f => .error f
        | .ok r => .error (.before (shape.tooShort i) r.rest)
    | .ok (some t) =>
      match field.content.read t.1 with
      | .error f => .error (f.within (.index i))
      | .ok r =>
        match shape.readPositions (i + 1) fields (r.value st) r.rest with
        | .error f => .error f
        | .ok r' => .ok (r'.lift (Nat.le_trans (Nat.le_of_lt r.shorter) t.2))

/-- The record from the members of an object. -/
def ofMembers (shape : Shape σ α) : σ → List (String × Value) → Except Cause α
  | st, [] => shape.finish st
  | st, (key, v) :: rest =>
    match shape.field? key with
    | none => shape.ofMembers st rest
    | some field =>
      if field.isRead st then .error (.repeatedField field.name)
      else
        match field.content.ofValue v with
        | .error c => .error c
        | .ok set => shape.ofMembers (set st) rest

/-- The record from the elements of a list, from field number `i` on. -/
def ofPositions (shape : Shape σ α) : (i : Nat) → List (Field σ) → σ → List Value → Except Cause α
  | _, [], st, [] => shape.finish st
  | i, [], _, _ :: rest => .error (.wrongLength (i + 1 + rest.length) .fewer)
  | i, _ :: _, st, [] =>
    if shape.mayStopEarly then shape.finish st else .error (shape.tooShort i)
  | i, field :: fields, st, v :: rest =>
    match field.content.ofValue v with
    | .error c => .error c
    | .ok set => shape.ofPositions (i + 1) fields (set st) rest

end Shape

/-- A record. -/
def Decoder.record {σ α : Type} (shape : Shape σ α) : Decoder α where
  read s :=
    match h : skipBlanks s with
    | [] => .error (.upon .endInValue [])
    | b :: t =>
      have ht := length_tail_le_of_skipBlanks h
      if b = 0x5B then
        match shape.readPositions 0 shape.fields shape.start t with
        | .error f => .error f
        | .ok r => .ok (r.lift ht)
      else if b = 0x7B then
        match shape.readFields t with
        | .error f => .error f
        | .ok r => .ok (r.lift ht)
      else .error (mismatch (.record shape.name) (b :: t))
  ofValue
    | .list items => shape.ofPositions 0 shape.fields shape.start items
    | .object members => shape.ofMembers shape.start members
    | v => .error (.wrongKind v.found (.record shape.name))

/-! ### Whole texts -/

namespace Decoder

variable {α : Type}

/-- The content of the first value of a text. What stands behind that value is not looked at. -/
def decodeFront (d : Decoder α) (text : Bytes) : Except Refusal α :=
  match d.read text with
  | .error f => .error (f.locate text)
  | .ok r => .ok r.value

/-- The content of a text that is one value, with blanks around it. -/
def decode (d : Decoder α) (text : Bytes) : Except Refusal α :=
  match d.read text with
  | .error f => .error (f.locate text)
  | .ok r =>
    match skipBlanks r.rest with
    | [] => .ok r.value
    | b :: t => .error ((Fault.upon .trailingCharacters (b :: t)).locate text)

end Decoder

/-- The value that a text is. -/
def Value.ofText (text : Bytes) : Except Refusal Value := (Decoder.any 0).decode text

end CommitGate.Json
