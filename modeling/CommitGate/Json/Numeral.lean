import CommitGate.Json.Reader

/-!
# Reading numbers

A number is first taken apart: sign, digits of the whole part, digits of the fraction, and the power
of ten. Its value is an integer if it has neither fraction nor power of ten and fits 64 bits, and
otherwise a number of double precision.

The digits of such a number are gathered in a significand as long as it fits 64 bits. Digits of the
whole part that do not fit are dropped, and each raises the power of ten by one; digits of the
fraction that do not fit are dropped without a trace. The significand is then multiplied or divided
by powers of ten, each step rounded to double precision.
-/

namespace CommitGate.Json

open Decimal (Binary64)

/-- Whether a byte is a decimal digit. -/
def isDigit (b : UInt8) : Bool := 0x30 ≤ b && b ≤ 0x39

/-- The value of a decimal digit. -/
def digitValue (b : UInt8) : Nat := b.toNat - 0x30

/-- The digits at the front of the bytes. -/
def digitsOf (s : Bytes) : Bytes := s.takeWhile isDigit

/-- The bytes behind the digits at the front. -/
def skipDigits (s : Bytes) : Bytes := s.dropWhile isDigit

theorem length_skipDigits_le (s : Bytes) : (skipDigits s).length ≤ s.length :=
  (List.dropWhile_sublist _).length_le

/-! ### The parts of a number -/

/-- A number taken apart. Digits are the bytes that stand in the text. -/
structure Spelling where
  /-- Whether a minus sign stands in front. -/
  negative : Bool
  /-- The digits of the whole part. -/
  whole : Bytes
  /-- The digits behind the point; none if there is no point. -/
  fraction : Bytes
  /-- Whether the power of ten has a minus sign, and its digits, if it is written. -/
  power : Option (Bool × Bytes)
deriving DecidableEq, Repr

/-- The digits of the whole part, behind the sign. A zero has no digit behind it. -/
def readWhole : Reader Bytes
  | [] => .error (.before .endInValue [])
  | b :: s =>
    if b = 0x30 then
      if (digitsOf s).isEmpty then .ok ⟨[b], s, length_lt_cons b s⟩
      else .error (.upon .invalidNumber s)
    else if isDigit b then
      .ok ⟨b :: digitsOf s, skipDigits s, Nat.lt_succ_of_le (length_skipDigits_le s)⟩
    else .error (.before .invalidNumber s)

/-- The digits of the fraction, if a point comes next; at least one. -/
def readFraction (s : Bytes) : Except Fault (Bytes × Suffix s) :=
  match s with
  | [] => .ok ([], .whole [])
  | b :: t =>
    if b = 0x2E then
      if (digitsOf t).isEmpty then
        .error (.upon (if t.isEmpty then .endInValue else .invalidNumber) t)
      else .ok (digitsOf t, ⟨skipDigits t, Nat.le_succ_of_le (length_skipDigits_le t)⟩)
    else .ok ([], .whole (b :: t))

/-- The sign of a power of ten, if there is one, and what is behind it. -/
def readPowerSign (s : Bytes) : Bool × Suffix s :=
  match s with
  | [] => (false, .whole [])
  | b :: t =>
    if b = 0x2D then (true, ⟨t, length_le_cons b t⟩)
    else if b = 0x2B then (false, ⟨t, length_le_cons b t⟩)
    else (false, .whole (b :: t))

/-- The power of ten, if its mark comes next; it has at least one digit. -/
def readPower (s : Bytes) : Except Fault (Option (Bool × Bytes) × Suffix s) :=
  match s with
  | [] => .ok (none, .whole [])
  | b :: t =>
    if b = 0x65 ∨ b = 0x45 then
      let (negative, u) := readPowerSign t
      match h : u.1 with
      | [] => .error (.before .endInValue [])
      | c :: v =>
        if isDigit c then
          .ok (some (negative, c :: digitsOf v), ⟨skipDigits v, by
            have h1 := u.2
            have h2 := length_skipDigits_le v
            rw [h, List.length_cons] at h1
            rw [List.length_cons]; omega⟩)
        else .error (.before .invalidNumber v)
    else .ok (none, .whole (b :: t))

/-- The parts of a number behind its sign. -/
def readUnsigned (negative : Bool) : Reader Spelling := fun s =>
  match readWhole s with
  | .error f => .error f
  | .ok whole =>
    match readFraction whole.rest with
    | .error f => .error f
    | .ok (fraction, t) =>
      match readPower t.1 with
      | .error f => .error f
      | .ok (power, u) =>
        .ok ⟨⟨negative, whole.value, fraction, power⟩, u.1,
          Nat.lt_of_le_of_lt (Nat.le_trans u.2 t.2) whole.shorter⟩

/-- The parts of a number. -/
def readSpelling : Reader Spelling
  | [] => .error (.before .endInValue [])
  | b :: s =>
    if b = 0x2D then
      match readUnsigned true s with
      | .error f => .error f
      | .ok r => .ok (r.lift (length_le_cons b s))
    else readUnsigned false (b :: s)

/-- The text behind a number that is skipped. Whatever is wrong with it, it is an invalid number. -/
def skipNumber : Reader Unit := fun s =>
  match readSpelling s with
  | .error f => .error (f.because .invalidNumber)
  | .ok r => .ok (r.map fun _ => ())

/-! ### The value of a number -/

/-- The number that digits continue `m` to, as far as it stays below `bound`, and the digits left
over. -/
def gather (bound : Nat) : (m : Nat) → Bytes → Nat × Bytes
  | m, [] => (m, [])
  | m, d :: ds =>
    if m * 10 + digitValue d < bound then gather bound (m * 10 + digitValue d) ds else (m, d :: ds)

/-- The number `x * 10 ^ e` in double precision, or `none` if it is infinite. Powers of ten beyond
`308` are taken in steps. -/
def scaleTen (x : Binary64) (e : Int) : Option Binary64 :=
  if e.natAbs ≤ 308 then
    if 0 ≤ e then (Binary64.tenPow? e.natAbs).bind x.mul?
    else (Binary64.tenPow? e.natAbs).bind x.div?
  else if x.isZero then some x
  else if 0 ≤ e then none
  else ((Binary64.tenPow? 308).bind x.div?).bind fun y => scaleTen y (e + 308)
termination_by (-e).toNat
decreasing_by omega

/-- The value of a number in double precision. A power of ten beyond 32 bits is an error if it makes
the number large, with all digits behind the one that is too many left over, and gives zero
otherwise. -/
def Spelling.real (n : Spelling) : Except Bytes Binary64 :=
  let (significand, dropped) := gather (Nat.pow 2 64) 0 n.whole
  let (significand, ignored) := gather (Nat.pow 2 64) significand n.fraction
  let start : Int := (dropped.length : Int) - (n.fraction.length - ignored.length : Nat)
  let signed (x : Binary64) : Binary64 := if n.negative then x.neg else x
  let scaled (e : Int) : Except Bytes Binary64 :=
    match (Binary64.ofNat? significand).bind (scaleTen · e) with
    | some x => .ok (signed x)
    | none => .error []
  match n.power with
  | none => scaled start
  | some (negative, digits) =>
    match gather (Nat.pow 2 31) 0 digits with
    | (e, []) => scaled (if negative then start - e else start + e)
    | (_, _ :: rest) =>
      if significand = 0 ∨ negative then .ok (signed .zero) else .error rest

/-- The value of a number; or, where it is out of range, the digits of its power of ten that had not
been read when that showed. -/
def Spelling.value (n : Spelling) : Except Bytes Number :=
  if n.fraction.isEmpty ∧ n.power.isNone then
    match gather (Nat.pow 2 64) 0 n.whole with
    | (m, []) =>
      if !n.negative then .ok (.natural m)
      else if 0 < m ∧ m ≤ Nat.pow 2 63 then .ok (.negative m)
      else n.real.map .real
    | (_, _ :: _) => n.real.map .real
  else n.real.map .real

/-- A number. -/
def readNumber : Reader Number := fun s =>
  match readSpelling s with
  | .error f => .error f
  | .ok r =>
    match r.value.value with
    | .ok n => .ok (r.map fun _ => n)
    | .error unread => .error (.before .numberOutOfRange (unread ++ r.rest))

end CommitGate.Json
