import CommitGate.Json.Fault

/-!
# Reading JSON text from the front

A reader takes a value from the front of the bytes and hands back the rest, which is shorter: every
loop over a text ends because of that. This module has the readers below the values: blanks, words,
and the punctuation of lists and objects.
-/

namespace CommitGate.Json

/-- A value taken from the front of `s`, and what is left of `s`. -/
structure Taken (α : Type) (s : Bytes) where
  value : α
  rest : Bytes
  shorter : rest.length < s.length

namespace Taken

/-- The same rest, with a value computed from the first. -/
def map {α β : Type} {s : Bytes} (f : α → β) (t : Taken α s) : Taken β s :=
  ⟨f t.value, t.rest, t.shorter⟩

/-- What was taken from an end of `s` was taken from `s`. -/
def lift {α : Type} {s u : Bytes} (h : u.length ≤ s.length) (t : Taken α u) : Taken α s :=
  ⟨t.value, t.rest, Nat.lt_of_lt_of_le t.shorter h⟩

end Taken

/-- A reader of values of type `α`. -/
abbrev Reader (α : Type) := (s : Bytes) → Except Fault (Taken α s)

/-- An end of `s`, perhaps all of it. -/
abbrev Suffix (s : Bytes) := { t : Bytes // t.length ≤ s.length }

theorem length_le_self (s : Bytes) : s.length ≤ s.length := Nat.le_refl _

theorem length_le_cons (b : UInt8) (s : Bytes) : s.length ≤ (b :: s).length := Nat.le_succ _

theorem length_lt_cons (b : UInt8) (s : Bytes) : s.length < (b :: s).length := Nat.lt_succ_self _

/-- All of `s`, as an end of it. -/
def Suffix.whole (s : Bytes) : Suffix s := ⟨s, length_le_self s⟩

/-! ### Blanks and words -/

/-- Whether a byte may stand between tokens: space, tab, line feed or carriage return. -/
def isBlankByte (b : UInt8) : Bool := b == 0x20 || b == 0x09 || b == 0x0A || b == 0x0D

/-- The text behind the blanks at its front. -/
def skipBlanks (s : Bytes) : Bytes := s.dropWhile isBlankByte

theorem length_skipBlanks_le (s : Bytes) : (skipBlanks s).length ≤ s.length :=
  (List.dropWhile_sublist _).length_le

theorem length_le_of_skipBlanks {s t : Bytes} {b : UInt8} (h : skipBlanks s = b :: t) :
    (b :: t).length ≤ s.length := h ▸ length_skipBlanks_le s

theorem length_lt_of_skipBlanks {s t : Bytes} {b : UInt8} (h : skipBlanks s = b :: t) :
    t.length < s.length := length_le_of_skipBlanks h

theorem length_tail_le_of_skipBlanks {s t : Bytes} {b : UInt8} (h : skipBlanks s = b :: t) :
    t.length ≤ s.length := Nat.le_of_lt (length_lt_of_skipBlanks h)

/-- The text behind a word. -/
def readWord : (word : Bytes) → (s : Bytes) → Except Fault (Suffix s)
  | [], s => .ok (.whole s)
  | _ :: _, [] => .error (.before .endInValue [])
  | b :: word, c :: s =>
    if b = c then
      match readWord word s with
      | .error f => .error f
      | .ok t => .ok ⟨t.1, Nat.le_succ_of_le t.2⟩
    else .error (.before .expectedWord s)

/-! ### Punctuation of lists -/

/-- In a list: where the next element starts, or `none` in front of the closing bracket. -/
def nextItem (first : Bool) (s : Bytes) : Except Fault (Option (Suffix s)) :=
  match h : skipBlanks s with
  | [] => .error (.upon .endInList [])
  | b :: t =>
    if b = 0x5D then .ok none
    else if first then .ok (some ⟨b :: t, length_le_of_skipBlanks h⟩)
    else if b = 0x2C then
      match h' : skipBlanks t with
      | [] => .error (.upon .endInValue [])
      | c :: u =>
        if c = 0x5D then .error (.upon .trailingComma (c :: u))
        else .ok (some ⟨c :: u, Nat.le_trans (length_le_of_skipBlanks h')
          (length_tail_le_of_skipBlanks h)⟩)
    else .error (.upon .expectedCommaOrBracket (b :: t))

/-- The closing bracket of a list whose elements have all been read. -/
def closeList : Reader Unit := fun s =>
  match h : skipBlanks s with
  | [] => .error (.upon .endInList [])
  | b :: t =>
    if b = 0x5D then .ok ⟨(), t, length_lt_of_skipBlanks h⟩
    else if b = 0x2C then
      match skipBlanks t with
      | [] => .error (.upon .trailingCharacters [])
      | c :: u => .error (.upon (if c = 0x5D then .trailingComma else .trailingCharacters) (c :: u))
    else .error (.upon .trailingCharacters (b :: t))

/-- The elements of a list and its closing bracket, each read by `item`. -/
def readItems {α : Type} (item : Reader α) : Reader (List α) := fun s =>
  go s 0 [] s (length_le_self s)
where
  /-- The elements from number `i` on, those before them in reverse. -/
  go (s : Bytes) (i : Nat) (acc : List α) (t : Bytes) (h : t.length ≤ s.length) :
      Except Fault (Taken (List α) s) :=
    match nextItem (i == 0) t with
    | .error f => .error f
    | .ok none =>
      match closeList t with
      | .error f => .error f
      | .ok r => .ok ⟨acc.reverse, r.rest, Nat.lt_of_lt_of_le r.shorter h⟩
    | .ok (some u) =>
      match item u.1 with
      | .error f => .error (f.within (.index i))
      | .ok r =>
        have : r.rest.length < t.length := Nat.lt_of_lt_of_le r.shorter u.2
        go s (i + 1) (r.value :: acc) r.rest (by omega)
  termination_by t.length

end CommitGate.Json
