import Mathlib.Data.List.Forall2

/-!
# JSON as it is written

The grammar of JSON over characters. A text is taken apart into a tree (`Node`) that keeps numbers and
strings as they are spelled and members in the order in which they stand; `Node.Written` says which
texts a tree can be written as, and `Document` allows for blanks around it. What a string stands for
is a relation of its own (`TextWritten`), since a string need not stand for a text: half of a
surrogate pair can be spelled.
-/

namespace CommitGate.Json

/-! ### Blanks, strings and numbers -/

/-- Characters that may stand between tokens. -/
def Blanks (t : List Char) : Prop := ∀ c ∈ t, c ∈ [' ', '\t', '\n', '\r']

instance (t : List Char) : Decidable (Blanks t) :=
  List.decidableBAll (· ∈ [' ', '\t', '\n', '\r']) t

/-- The hexadecimal digits in the order of their values, with small letters. -/
def smallDigits : List Char :=
  ['0', '1', '2', '3', '4', '5', '6', '7', '8', '9', 'a', 'b', 'c', 'd', 'e', 'f']

/-- The hexadecimal digits in the order of their values, with capital letters. -/
def capitalDigits : List Char :=
  ['0', '1', '2', '3', '4', '5', '6', '7', '8', '9', 'A', 'B', 'C', 'D', 'E', 'F']

/-- A hexadecimal digit with its value. -/
def HexDigit (c : Char) (n : Nat) : Prop := smallDigits[n]? = some c ∨ capitalDigits[n]? = some c

/-- Four hexadecimal digits with their value. -/
def FourHex (n : Nat) (t : List Char) : Prop :=
  ∃ a b c d w x y z, t = [a, b, c, d] ∧ HexDigit a w ∧ HexDigit b x ∧ HexDigit c y ∧
    HexDigit d z ∧ n = ((w * 16 + x) * 16 + y) * 16 + z

/-- A letter behind a backslash, and the character that the two stand for. -/
inductive ShortEscape : Char → Char → Prop
  | quote : ShortEscape '\x22' '\x22'
  | backslash : ShortEscape '\\' '\\'
  | slash : ShortEscape '/' '/'
  | backspace : ShortEscape 'b' '\x08'
  | formFeed : ShortEscape 'f' '\x0c'
  | lineFeed : ShortEscape 'n' '\n'
  | carriageReturn : ShortEscape 'r' '\r'
  | tab : ShortEscape 't' '\t'

/-- The character may stand in a string as itself. -/
def IsPlain (c : Char) : Prop := 0x20 ≤ c.toNat ∧ c ≠ '\x22' ∧ c ≠ '\\'

instance : DecidablePred IsPlain := fun c =>
  inferInstanceAs (Decidable (0x20 ≤ c.toNat ∧ c ≠ '\x22' ∧ c ≠ '\\'))

/-- The text may stand between quotes as itself. -/
def PlainText (t : List Char) : Prop := ∀ c ∈ t, IsPlain c

instance (t : List Char) : Decidable (PlainText t) := List.decidableBAll IsPlain t

/-- **A character as it may stand in a string.** -/
inductive CharWritten (c : Char) : List Char → Prop
  | plain (h : IsPlain c) : CharWritten c [c]
  | short {letter : Char} (h : ShortEscape letter c) : CharWritten c ['\\', letter]
  /-- Its code; a character has no code among the halves of surrogate pairs. -/
  | code {digits : List Char} (h : FourHex c.toNat digits) : CharWritten c ('\\' :: 'u' :: digits)
  /-- Its code as a surrogate pair. -/
  | pair {high low : List Char} (hc : 0x10000 ≤ c.toNat)
    (hhigh : FourHex (0xD800 + (c.toNat - 0x10000) / 0x400) high)
    (hlow : FourHex (0xDC00 + (c.toNat - 0x10000) % 0x400) low) :
    CharWritten c ('\\' :: 'u' :: high ++ '\\' :: 'u' :: low)

/-- **A text as it may stand between quotes.** -/
inductive TextWritten : List Char → List Char → Prop
  | nil : TextWritten [] []
  | cons {c : Char} {s t u : List Char} (this : CharWritten c t) (others : TextWritten s u) :
    TextWritten (c :: s) (t ++ u)

/-- What may stand between quotes, whether or not it stands for a text. -/
inductive StringBody : List Char → Prop
  | nil : StringBody []
  | plain {c : Char} {u : List Char} (h : IsPlain c) (others : StringBody u) : StringBody (c :: u)
  | short {letter c : Char} {u : List Char} (h : ShortEscape letter c) (others : StringBody u) :
    StringBody ('\\' :: letter :: u)
  | code {n : Nat} {digits u : List Char} (h : FourHex n digits) (others : StringBody u) :
    StringBody ('\\' :: 'u' :: digits ++ u)

/-- Decimal digits, at least one. -/
def DigitRun (t : List Char) : Prop := t ≠ [] ∧ ∀ c ∈ t, c.isDigit = true

/-- The digits behind a point, with the point; or nothing. -/
def FractionWritten (t : List Char) : Prop := t = [] ∨ ∃ ds, t = '.' :: ds ∧ DigitRun ds

/-- A power of ten, with its mark and perhaps a sign; or nothing. -/
def PowerWritten (t : List Char) : Prop :=
  t = [] ∨ ∃ mark sign ds, t = mark :: (sign ++ ds) ∧ mark ∈ ['e', 'E'] ∧
    sign ∈ [[], ['+'], ['-']] ∧ DigitRun ds

/-- **A number**: perhaps a minus sign, digits of which a zero stands alone, perhaps a fraction and a
power of ten. -/
def NumberWritten (t : List Char) : Prop :=
  ∃ sign whole fraction power, t = sign ++ whole ++ fraction ++ power ∧ sign ∈ [[], ['-']] ∧
    DigitRun whole ∧ (whole.head? = some '0' → whole = ['0']) ∧ FractionWritten fraction ∧
    PowerWritten power

/-! ### Trees -/

/-- A text taken apart. -/
inductive Node where
  /-- The word `null`. -/
  | null
  | boolean (b : Bool)
  /-- A number as it is spelled. -/
  | number (spelling : List Char)
  /-- A string, as what stands between its quotes. -/
  | string (body : List Char)
  | list (items : List Node)
  /-- Members, each with what stands between the quotes of its key. -/
  | object (members : List (List Char × Node))

/-- Parts with commas between them and blanks around each; only blanks if there is no part. -/
inductive Row {τ : Type} (part : τ → List Char → Prop) : List τ → List Char → Prop
  | none {t : List Char} (blanks : Blanks t) : Row part [] t
  | one {x : τ} {before t behind : List Char} (hbefore : Blanks before) (this : part x t)
    (hbehind : Blanks behind) : Row part [x] (before ++ t ++ behind)
  | more {x y : τ} {xs : List τ} {before t behind u : List Char} (hbefore : Blanks before)
    (this : part x t) (hbehind : Blanks behind) (others : Row part (y :: xs) u) :
    Row part (x :: y :: xs) (before ++ t ++ behind ++ ',' :: u)

/-- A key, its colon and a value, with blanks around the colon. -/
inductive MemberWritten (value : Node → List Char → Prop) : List Char × Node → List Char → Prop
  | mk {key before behind t : List Char} {n : Node} (hkey : StringBody key)
    (hbefore : Blanks before) (hbehind : Blanks behind) (hvalue : value n t) :
    MemberWritten value (key, n) ('\x22' :: key ++ '\x22' :: before ++ ':' :: behind ++ t)

/-- **What a tree can be written as**, without blanks around it. -/
inductive Node.Written : Node → List Char → Prop
  | null : Written .null ['n', 'u', 'l', 'l']
  | true : Written (.boolean true) ['t', 'r', 'u', 'e']
  | false : Written (.boolean false) ['f', 'a', 'l', 's', 'e']
  | number {t : List Char} (h : NumberWritten t) : Written (.number t) t
  | string {t : List Char} (h : StringBody t) : Written (.string t) ('\x22' :: t ++ ['\x22'])
  | list {items : List Node} {t : List Char} (h : Row Written items t) :
    Written (.list items) ('[' :: t ++ [']'])
  | object {members : List (List Char × Node)} {t : List Char}
    (h : Row (MemberWritten Written) members t) :
    Written (.object members) ('\x7b' :: t ++ ['\x7d'])

/-- **A text that is one tree**, with blanks around it. -/
def Document (n : Node) (text : List Char) : Prop :=
  ∃ before t behind, text = before ++ t ++ behind ∧ Blanks before ∧ n.Written t ∧ Blanks behind

/-- The members with their keys as texts. -/
def Named (members : List (List Char × Node)) (named : List (String × Node)) : Prop :=
  List.Forall₂ (fun m k => TextWritten k.1.toList m.1 ∧ m.2 = k.2) members named

/-- **No object in the tree repeats a key**, however its keys are spelled. -/
inductive Node.KeysDistinct : Node → Prop
  | null : KeysDistinct .null
  | boolean (b : Bool) : KeysDistinct (.boolean b)
  | number (t : List Char) : KeysDistinct (.number t)
  | string (t : List Char) : KeysDistinct (.string t)
  | list {items : List Node} (h : ∀ n ∈ items, n.KeysDistinct) : KeysDistinct (.list items)
  | object {members : List (List Char × Node)}
    (hkeys : members.Pairwise fun m m' => ∀ s, TextWritten s m.1 → ¬ TextWritten s m'.1)
    (h : ∀ m ∈ members, m.2.KeysDistinct) : KeysDistinct (.object members)

/-- Induction on trees, with what holds of all elements and of the values of all members. -/
@[elab_as_elim]
theorem Node.induction {P : Node → Prop} (null : P .null) (boolean : ∀ b, P (.boolean b))
    (number : ∀ t, P (.number t)) (string : ∀ t, P (.string t))
    (list : ∀ items, (∀ n ∈ items, P n) → P (.list items))
    (object : ∀ members, (∀ m ∈ members, P m.2) → P (.object members)) : ∀ n, P n
  | .null => null
  | .boolean b => boolean b
  | .number t => number t
  | .string t => string t
  | .list items => list items fun n _ => Node.induction null boolean number string list object n
  | .object members => object members fun m hm =>
    have : sizeOf m.2 < sizeOf members := by
      have hlt := List.sizeOf_lt_of_mem hm
      rcases m with ⟨key, n⟩
      simp only [Prod.mk.sizeOf_spec] at hlt ⊢
      omega
    Node.induction null boolean number string list object m.2

/-! ### Every text can be spelled -/

theorem blanks_nil : Blanks [] := List.forall_mem_nil _

theorem textWritten_of_plain {s : List Char} (h : PlainText s) : TextWritten s s := by
  induction s with
  | nil => exact .nil
  | cons c s ih =>
    obtain ⟨hc, hs⟩ := List.forall_mem_cons.1 h
    exact .cons (.plain hc) (ih hs)

theorem stringBody_of_charWritten {c : Char} {t u : List Char} (hc : CharWritten c t)
    (h : StringBody u) : StringBody (t ++ u) := by
  cases hc with
  | plain h' => exact .plain h' h
  | short h' => exact .short h' h
  | code h' => exact .code h' h
  | pair _ hhigh hlow =>
    rw [List.append_assoc]
    exact .code hhigh (.code hlow h)

/-- What is written for a text may stand between quotes. -/
theorem stringBody_of_textWritten {s t : List Char} (h : TextWritten s t) : StringBody t := by
  induction h with
  | nil => exact .nil
  | cons this _ ih => exact stringBody_of_charWritten this ih

theorem exists_hexDigit_of_lt {n : Nat} (h : n < 16) : ∃ c, HexDigit c n :=
  ⟨smallDigits.get ⟨n, h⟩, .inl (List.getElem?_eq_getElem h)⟩

theorem exists_fourHex {n : Nat} (h : n < 0x10000) : ∃ t, FourHex n t := by
  obtain ⟨a, ha⟩ := exists_hexDigit_of_lt (show n / 0x1000 < 16 by omega)
  obtain ⟨b, hb⟩ := exists_hexDigit_of_lt (show n / 0x100 % 16 < 16 by omega)
  obtain ⟨c, hc⟩ := exists_hexDigit_of_lt (show n / 0x10 % 16 < 16 by omega)
  obtain ⟨d, hd⟩ := exists_hexDigit_of_lt (show n % 16 < 16 by omega)
  exact ⟨_, a, b, c, d, _, _, _, _, rfl, ha, hb, hc, hd, by omega⟩

theorem exists_charWritten (c : Char) : ∃ t, CharWritten c t := by
  by_cases hquote : c = '\x22'
  · subst hquote
    exact ⟨_, .short .quote⟩
  by_cases hbackslash : c = '\\'
  · subst hbackslash
    exact ⟨_, .short .backslash⟩
  by_cases hcontrol : 0x20 ≤ c.toNat
  · exact ⟨_, .plain ⟨hcontrol, hquote, hbackslash⟩⟩
  · obtain ⟨digits, hdigits⟩ := exists_fourHex (show c.toNat < 0x10000 by omega)
    exact ⟨_, .code hdigits⟩

/-- Every text can be put between quotes. -/
theorem exists_textWritten (s : List Char) : ∃ t, TextWritten s t := by
  induction s with
  | nil => exact ⟨[], .nil⟩
  | cons c s ih =>
    obtain ⟨t, ht⟩ := exists_charWritten c
    obtain ⟨u, hu⟩ := ih
    exact ⟨_, .cons ht hu⟩

/-- A member whose key stands for itself. -/
theorem memberWritten_of_plain {key : String} (hkey : PlainText key.toList) {n : Node}
    {t : List Char} (h : n.Written t) :
    MemberWritten Node.Written (key.toList, n)
      ('\x22' :: key.toList ++ '\x22' :: [] ++ ':' :: [] ++ t) :=
  .mk (stringBody_of_textWritten (textWritten_of_plain hkey)) blanks_nil blanks_nil h

/-- Keys that stand for themselves. -/
theorem named_of_plain {named : List (String × Node)}
    (h : ∀ k ∈ named, PlainText k.1.toList) :
    Named (named.map fun k => (k.1.toList, k.2)) named := by
  induction named with
  | nil => exact .nil
  | cons k named ih =>
    rw [List.forall_mem_cons] at h
    exact .cons ⟨textWritten_of_plain h.1, rfl⟩ (ih h.2)

/-- Parts that can be written can be written in a row. -/
theorem exists_row {τ : Type} {part : τ → List Char → Prop} {xs : List τ}
    (h : ∀ x ∈ xs, ∃ t, part x t) : ∃ t, Row part xs t := by
  induction xs with
  | nil => exact ⟨[], .none blanks_nil⟩
  | cons x xs ih =>
    rw [List.forall_mem_cons] at h
    obtain ⟨⟨t, ht⟩, hxs⟩ := h
    obtain ⟨u, hu⟩ := ih hxs
    rcases xs with _ | ⟨y, ys⟩
    · exact ⟨_, .one blanks_nil ht blanks_nil⟩
    · exact ⟨_, .more blanks_nil ht blanks_nil hu⟩

end CommitGate.Json
