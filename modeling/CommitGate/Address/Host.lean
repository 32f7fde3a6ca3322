import CommitGate.Text.Quoted
import CommitGate.Text.Utf8

/-!
# Hosts in normal form

A host that a link names is brought into one form before it is used: names are in lower case,
numeric addresses of four bytes are written as four decimal numbers, and those of sixteen bytes as
groups of hexadecimal digits with the longest run of zero groups left out. Names beyond ASCII have a
form in ASCII; the tables that tell which one are given (`Host.Names`).
-/

namespace CommitGate.Host

open Text (hexNumeral)

/-- The value of a digit in a base up to sixteen. -/
def digit? (base : Nat) (c : Char) : Option Nat :=
  let n := c.toNat
  let value? : Option Nat :=
    if c.isDigit then some (n - 0x30)
    else if 'a' ≤ c && c ≤ 'f' then some (n - 0x57)
    else if 'A' ≤ c && c ≤ 'F' then some (n - 0x37)
    else none
  value?.filter (· < base)

/-- The value of digits in a base; none for a character that is no digit. -/
def valueOf? (base : Nat) (s : List Char) : Option Nat :=
  s.foldlM (fun n c => (digit? base c).map fun d => n * base + d) 0

/-! ### Addresses of four bytes -/

/-- The number that one part of a numeric address stands for: hexadecimal behind `0x`, octal behind
another `0`, decimal otherwise. -/
def partValue? (s : List Char) : Option Nat :=
  match s with
  | [] => none
  | '0' :: 'x' :: digits | '0' :: 'X' :: digits => valueOf? 16 digits
  | '0' :: c :: digits => valueOf? 8 (c :: digits)
  | digits => valueOf? 10 digits

/-- The parts of a name between its dots, without an empty one at the end. -/
def labels (s : List Char) : List (List Char) :=
  let parts := s.splitOnP (· == '.')
  if 1 < parts.length ∧ parts.getLast? = some [] then parts.dropLast else parts

/-- Whether a name can only be a numeric address, because its last part is a number. -/
def endsInNumber (s : List Char) : Bool :=
  match (labels s).getLast? with
  | none => false
  | some [] => false
  | some part =>
    part.all Char.isDigit ||
      ((part.take 2).map Char.toLower == ['0', 'x'] && (partValue? part).isSome)

/-- The address of four bytes that a name stands for, as one number. The last part fills the bytes
that the others leave. -/
def fourBytes? (s : List Char) : Option Nat := do
  let values ← (labels s).mapM partValue?
  let front := values.dropLast
  let last ← values.getLast?
  if front.length ≤ 3 ∧ front.all (· < 256) ∧ last < Nat.pow 256 (4 - front.length) then
    some (front.foldl (fun n b => n * 256 + b) 0 * Nat.pow 256 (4 - front.length) + last)
  else none

/-- An address of four bytes as text. -/
def fourBytesText (n : Nat) : List Char :=
  let byte (i : Nat) := (toString (n / Nat.pow 256 i % 256)).toList
  byte 3 ++ '.' :: byte 2 ++ '.' :: byte 1 ++ '.' :: byte 0

/-! ### Addresses of sixteen bytes -/

/-- A group of one to four hexadecimal digits. -/
def group? (s : List Char) : Option Nat :=
  if s.isEmpty || 4 < s.length then none else valueOf? 16 s

/-- Two groups written as four decimal bytes. -/
def dottedGroups? (s : List Char) : Option (List Nat) := do
  let parts := s.splitOnP (· == '.')
  let values ← parts.mapM fun part =>
    if part.isEmpty || (1 < part.length && part.head? == some '0') then none else valueOf? 10 part
  match values with
  | [a, b, c, d] =>
    if values.all (· < 256) then some [a * 256 + b, c * 256 + d] else none
  | _ => none

/-- The groups of a text without a gap. The last one may be written as decimal bytes if the text
ends the address. -/
def groups? (isLast : Bool) (s : List Char) : Option (List Nat) :=
  if s.isEmpty then some []
  else do
    let parts := s.splitOnP (· == ':')
    let front ← parts.dropLast.mapM group?
    let last ← parts.getLast?
    let back ← if isLast && last.contains '.' then dottedGroups? last else (group? last).map ([·])
    some (front ++ back)

/-- A text around the first `::` in it. -/
def splitGap? : List Char → Option (List Char × List Char)
  | [] => none
  | c :: rest =>
    match c, rest with
    | ':', ':' :: behind => some ([], behind)
    | _, _ => (splitGap? rest).map fun parts => (c :: parts.1, parts.2)

/-- The eight groups of an address of sixteen bytes. A gap stands for at least one group of zeros.
-/
def sixteenBytes? (s : List Char) : Option (List Nat) :=
  match splitGap? s with
  | none => (groups? true s).filter (·.length == 8)
  | some (front, back) => do
    let before ← groups? false front
    let behind ← groups? true back
    if before.length + behind.length < 8 then
      some (before ++ List.replicate (8 - before.length - behind.length) 0 ++ behind)
    else none

/-- The number of zeros at the front. -/
def zerosAt (groups : List Nat) : Nat := (groups.takeWhile (· == 0)).length

/-- Where the longest run of at least two zeros starts, and its length. Of equal runs the first. -/
def longestZeros (groups : List Nat) : Option (Nat × Nat) :=
  (List.range groups.length).foldl
    (fun best i =>
      let n := zerosAt (groups.drop i)
      if n < 2 then best
      else
        match best with
        | none => some (i, n)
        | some (_, m) => if m < n then some (i, n) else best)
    none

/-- The groups with colons between them. -/
def groupsText (groups : List Nat) : List Char :=
  [':'].intercalate (groups.map hexNumeral)

/-- An address of sixteen bytes as text, in brackets. -/
def sixteenBytesText (groups : List Nat) : List Char :=
  let body :=
    match longestZeros groups with
    | none => groupsText groups
    | some (i, n) => groupsText (groups.take i) ++ [':', ':'] ++ groupsText (groups.drop (i + n))
  '[' :: body ++ [']']

/-! ### Any host -/

/-- The names that have to be looked up, each with its form in ASCII. A name that is not there is no
host. -/
structure Names where
  /-- The form in ASCII of a name. -/
  toAscii? : List Char → Option (List Char)
  isAscii : ∀ name form, toAscii? name = some form → ∀ c ∈ form, c.toNat < 0x80

theorem Names.isAscii_of_none (form : List Char) (h : (none : Option (List Char)) = some form) :
    ∀ c ∈ form, c.toNat < 0x80 := by
  cases h

/-- No names but those that need not be looked up. -/
def Names.plain : Names where
  toAscii? _ := none
  isAscii _ form h := Names.isAscii_of_none form h

/-- Whether a name has to be looked up: it goes beyond ASCII, or one of its parts is marked as the
form of one that does. -/
def isLookedUp (name : List Char) : Bool :=
  name.any (fun c => 0x80 ≤ c.toNat) ||
    (labels name).any fun label => (label.take 4).map Char.toLower == "xn--".toList

/-- The form in ASCII of a name, in lower case. -/
def Names.form? (names : Names) (name : List Char) : Option (List Char) :=
  if isLookedUp name then names.toAscii? name else some (name.map Char.toLower)

/-- Undoes percent signs with two hexadecimal digits. -/
def percentDecode : List Char → Bytes
  | [] => []
  | '%' :: a :: b :: rest =>
    match digit? 16 a, digit? 16 b with
    | some x, some y => UInt8.ofNat (x * 16 + y) :: percentDecode rest
    | _, _ => 0x25 :: percentDecode (a :: b :: rest)
  | c :: rest => String.utf8EncodeChar c ++ percentDecode rest

/-- Whether a character may not stand in a name. -/
def isForbidden (c : Char) : Bool :=
  c.toNat ≤ 0x20 || c.toNat == 0x7F || "#/:<>?@[\\]^|%".toList.contains c

/-- The normal form of a host, if it is one. -/
def normalize? (names : Names) (s : List Char) : Option (List Char) :=
  match s with
  | [] => none
  | '[' :: rest =>
    if rest.getLast? = some ']' then (sixteenBytes? rest.dropLast).map sixteenBytesText else none
  | _ =>
    match (Text.ofBytes? (percentDecode s)).bind names.form? with
    | none => none
    | some name =>
      if name.isEmpty || name.any isForbidden then none
      else if endsInNumber name then (fourBytes? name).map fourBytesText
      else some name

end CommitGate.Host
