import CommitGate.Proofs.Settings
import Mathlib.Data.List.TakeWhile
import Mathlib.Data.Nat.Digits.Defs

/-!
# The texts that set a timeout

Which values of its variable set a timeout, and to how many seconds
(`ConnectionOptions.timeout_language`). A value counts up to the blanks at both ends (`Text.Trims`);
what is left has to be a decimal number (`IsDecimal`) from `1` to `2 ^ 64 - 1`. Its digits may be any
number of zeros followed by any number of others, so the number is also read as a machine would do
it: in words of 64 bits, where each step may find that its result does not fit (`wordOfText?`).
-/

namespace CommitGate

/-! ### Blanks at both ends -/

/-- **What is left of a text** when the blanks at both ends are taken off. -/
structure Text.Trims (s t : List Char) : Prop where
  around : ∃ front behind, s = front ++ t ++ behind ∧ (∀ c ∈ front, isBlank c = true) ∧
    ∀ c ∈ behind, isBlank c = true
  first : ∀ c, t.head? = some c → ¬ isBlank c = true
  last : ∀ c, t.getLast? = some c → ¬ isBlank c = true

section Trims

open Text

variable {s t : List Char}

theorem getLast?_trimEnd {c : Char} (h : (trimEnd s).getLast? = some c) : ¬ isBlank c = true := by
  rw [trimEnd, List.getLast?_reverse] at h
  have hfirst := List.head?_dropWhile_not isBlank s.reverse
  rw [h] at hfirst
  simpa using hfirst

/-- Taking the blanks off the end leaves the first character, if it is none of them. -/
theorem head?_trimEnd {c : Char} (h : (trimEnd s).head? = some c) : s.head? = some c := by
  have hsplit : s = trimEnd s ++ (s.reverse.takeWhile isBlank).reverse := by
    rw [trimEnd, ← List.reverse_append, List.takeWhile_append_dropWhile, List.reverse_reverse]
  rw [hsplit, List.head?_append, h]
  rfl

theorem trims_trim (s : List Char) : Trims s (trim s) where
  around := exists_trim s
  first := by
    intro c hc
    have hfirst := List.head?_dropWhile_not isBlank s
    rw [head?_trimEnd hc] at hfirst
    simpa using hfirst
  last := fun _ => getLast?_trimEnd

/-- Trimming leaves one text. -/
theorem trims_iff : Trims s t ↔ trim s = t := by
  constructor
  · rintro ⟨⟨front, behind, rfl, hfront, hbehind⟩, hfirst, hlast⟩
    by_cases hne : t = []
    · subst hne
      have hall : ∀ c ∈ front ++ [] ++ behind, isBlank c = true := by
        simpa [or_imp, forall_and] using ⟨hfront, hbehind⟩
      rw [trim, List.dropWhile_eq_nil_iff.2 hall]
      rfl
    · exact trim_eq hfront hbehind hfirst hlast hne
  · rintro rfl
    exact trims_trim s

end Trims

/-! ### Decimal numbers -/

/-- The value of a decimal digit. -/
def digitValue (c : Char) : Nat := c.toNat - 0x30

/-- **The text is a decimal number**: perhaps a plus sign, and digits from `0` to `9`, at least one. -/
def IsDecimal (t : List Char) (n : Nat) : Prop :=
  ∃ sign digits, t = sign ++ digits ∧ (sign = [] ∨ sign = ['+']) ∧ digits ≠ [] ∧
    (∀ c ∈ digits, c.isDigit = true) ∧ n = Nat.ofDigits 10 (digits.reverse.map digitValue)

theorem decimalNumber_eq_ofDigits (digits : List Char) :
    decimalNumber digits = Nat.ofDigits 10 (digits.reverse.map digitValue) := by
  rw [decimalNumber, Nat.ofDigits_eq_foldr, List.foldr_map, List.foldr_reverse]
  congr 1
  funext n c
  rw [Nat.cast_id, Nat.add_comm, Nat.mul_comm]
  rfl

/-- The numbers that decide whether a text sets a timeout, said of the text that trimming leaves. -/
theorem namesSeconds_iff {raw : String} {n : Nat} :
    NamesSeconds raw n ↔
      ∃ t, Text.Trims raw.toList t ∧ IsDecimal t n ∧ 1 ≤ n ∧ n ≤ Nat.pow 2 64 - 1 := by
  have hbound : n < Nat.pow 2 64 ↔ n ≤ Nat.pow 2 64 - 1 :=
    Nat.lt_iff_le_pred (show 0 < Nat.pow 2 64 by decide)
  constructor
  · rintro ⟨⟨front, sign, digits, behind, hraw, hfront, hbehind, hsign, hne, hdigits, hn⟩, hpos, hlt⟩
    have htrim := trim_eq_of_digits hfront hbehind hsign hne hdigits
    rw [decimalNumber_eq_ofDigits] at hn
    exact ⟨sign ++ digits, trims_iff.2 (hraw ▸ htrim), ⟨sign, digits, rfl, hsign, hne, hdigits, hn⟩,
      hpos, hbound.1 hlt⟩
  · rintro ⟨_, htrims, ⟨sign, digits, rfl, hsign, hne, hdigits, hn⟩, hpos, hle⟩
    obtain ⟨front, behind, hraw, hfront, hbehind⟩ := htrims.around
    rw [← decimalNumber_eq_ofDigits] at hn
    exact ⟨⟨front, sign, digits, behind, hraw, hfront, hbehind, hsign, hne, hdigits, hn⟩, hpos,
      hbound.2 hle⟩

/-! ### Numbers in words -/

/-- The product of two words, if it is a word. -/
def mulWord? (a b : UInt64) : Option UInt64 :=
  if a.toNat * b.toNat < Nat.pow 2 64 then some (a * b) else none

/-- The sum of two words, if it is a word. -/
def addWord? (a b : UInt64) : Option UInt64 :=
  if a.toNat + b.toNat < Nat.pow 2 64 then some (a + b) else none

/-- Takes one more digit into a word, unless the number does not fit any more. -/
def appendDigit? (n : UInt64) (c : Char) : Option UInt64 :=
  (mulWord? n 10).bind fun m => addWord? m (UInt64.ofNat (digitValue c))

/-- The number of seconds that a text names, read digit by digit into a word of 64 bits. -/
def wordOfText? (raw : String) : Option UInt64 :=
  let trimmed := Text.trim raw.toList
  let digits := if trimmed.head? = some '+' then trimmed.tail else trimmed
  if digits.isEmpty || !digits.all Char.isDigit then none
  else (digits.foldlM appendDigit? 0).filter (0 < ·)

/-- **A word that is computed for a number** is that number, and is missing if the number does not
fit. -/
inductive Fits : Option UInt64 → Nat → Prop
  | word (w : UInt64) : Fits (some w) w.toNat
  | overflow {n : Nat} (h : Nat.pow 2 64 ≤ n) : Fits none n

section Words

variable {c : Char} {digits : List Char} {a b n : UInt64}

theorem fits_mulWord? : Fits (mulWord? a b) (a.toNat * b.toNat) := by
  unfold mulWord?
  split
  · next h =>
    rw [← Nat.mod_eq_of_lt h, ← UInt64.toNat_mul]
    exact .word _
  · next h => exact .overflow (Nat.not_lt.1 h)

theorem fits_addWord? : Fits (addWord? a b) (a.toNat + b.toNat) := by
  unfold addWord?
  split
  · next h =>
    rw [← Nat.mod_eq_of_lt h, ← UInt64.toNat_add]
    exact .word _
  · next h => exact .overflow (Nat.not_lt.1 h)

/-- A digit is taken in just if the number that it makes fits. -/
theorem fits_appendDigit? (h : c.isDigit = true) :
    Fits (appendDigit? n c) (n.toNat * 10 + digitValue c) := by
  obtain ⟨-, hle⟩ := isDigit_iff.1 h
  have hdigit : (UInt64.ofNat (digitValue c)).toNat = digitValue c := by
    refine UInt64.toNat_ofNat_of_lt' ?_
    unfold digitValue UInt64.size
    omega
  have hproduct : Fits (mulWord? n 10) (n.toNat * 10) := fits_mulWord?
  unfold appendDigit?
  generalize mulWord? n 10 = product, n.toNat * 10 = k at hproduct ⊢
  cases hproduct with
  | word m =>
    have hsum := @fits_addWord? m (UInt64.ofNat (digitValue c))
    rwa [hdigit] at hsum
  | overflow hover => exact .overflow (by omega)

/-- The number that the digits in front stand for never falls when more of them are taken in. -/
theorem le_foldl_digits (digits : List Char) (n : Nat) :
    n ≤ digits.foldl (fun n c => n * 10 + digitValue c) n := by
  induction digits generalizing n with
  | nil => exact Nat.le_refl n
  | cons c digits ih =>
    have hstep := ih (n * 10 + digitValue c)
    rw [List.foldl_cons]
    omega

/-- **The loop over the digits is exact**, however many there are: it gives the number if that is one
of 64 bits, and stops at some digit if it is not. -/
theorem fits_foldlM_appendDigit? (h : ∀ c ∈ digits, c.isDigit = true) :
    Fits (digits.foldlM appendDigit? n)
      (digits.foldl (fun n c => n * 10 + digitValue c) n.toNat) := by
  induction digits generalizing n with
  | nil => exact .word n
  | cons c digits ih =>
    rw [List.forall_mem_cons] at h
    have hstep := fits_appendDigit? (n := n) h.1
    rw [List.foldlM_cons, List.foldl_cons]
    generalize appendDigit? n c = word, n.toNat * 10 + digitValue c = k at hstep ⊢
    cases hstep with
    | word m => exact ih h.2
    -- a number that is too large stays so, whatever digits come behind
    | overflow hover => exact .overflow (Nat.le_trans hover (le_foldl_digits digits k))

/-- **Reading into a word is reading a number**: no step wraps, and none stops a number that fits. -/
theorem secondsOfText?_eq_wordOfText? (raw : String) :
    secondsOfText? raw = (wordOfText? raw).map UInt64.toNat := by
  unfold secondsOfText? wordOfText?
  extract_lets trimmed digits number
  split
  · rfl
  · next hok =>
    have hdigits : ∀ c ∈ digits, c.isDigit = true := by
      rw [Bool.or_eq_true, not_or, Bool.not_eq_true', Bool.not_eq_false, List.all_eq_true] at hok
      exact hok.2
    have hloop : Fits (digits.foldlM appendDigit? 0) number := fits_foldlM_appendDigit? hdigits
    generalize digits.foldlM appendDigit? 0 = word, number = k at hloop ⊢
    cases hloop with
    | word m =>
      have hfits : m.toNat < Nat.pow 2 64 := m.toNat_lt
      have hpos : (0 : UInt64) < m ↔ 0 < m.toNat := UInt64.lt_iff_toNat_lt
      by_cases h0 : 0 < m.toNat
      · rw [if_pos ⟨h0, hfits⟩, Option.filter_some_pos (by simpa using hpos.2 h0), Option.map_some]
      · rw [if_neg fun h => h0 h.1, Option.filter_some_neg (by simpa using mt hpos.1 h0)]
        rfl
    | overflow hover =>
      rw [if_neg fun h => Nat.not_lt.2 hover h.2]
      rfl

end Words

/-! ### The timeout -/

/-- **What is read of the timeout**, by what its variable is set to. -/
inductive ReadsTimeout : Option String → Except SettingsError (Option Nat) → Prop
  | unset : ReadsTimeout none (.ok none)
  | empty : ReadsTimeout (some "") (.ok none)
  | seconds {raw : String} {t : List Char} {n : Nat} (given : raw ≠ "")
      (trims : Text.Trims raw.toList t) (decimal : IsDecimal t n) (pos : 1 ≤ n)
      (fits : n ≤ Nat.pow 2 64 - 1) : ReadsTimeout (some raw) (.ok (some n))
  /-- The value is told as it was set, with its blanks. -/
  | invalid {raw : String} {t : List Char} (given : raw ≠ "") (trims : Text.Trims raw.toList t)
      (unfit : ∀ n, IsDecimal t n → ¬ (1 ≤ n ∧ n ≤ Nat.pow 2 64 - 1)) :
      ReadsTimeout (some raw) (.error (.invalid .timeout raw))

namespace ConnectionOptions

variable {lookup : Lookup} {read : Except SettingsError (Option Nat)}

/-- The timeout is read from its own variable. -/
theorem timeout_answer_ask (lookup : Lookup) :
    (ask lookup).answer.map timeout =
      match lookup.given .timeout with
      | none => .ok none
      | some raw =>
        match secondsOfText? raw with
        | some seconds => .ok (some seconds)
        | none => .error (.invalid .timeout raw) := by
  rw [answer_ask]
  rcases lookup.given .timeout with _ | raw
  · rfl
  · rcases hn : secondsOfText? raw with _ | n
    · simp [hn, Except.map]
    · simp [hn, Except.map]

/-- A value that is not empty is read as what it names, or is told as it was set. -/
theorem readsTimeout_some_iff {raw : String} (given : raw ≠ "") :
    ReadsTimeout (some raw) read ↔
      read = match secondsOfText? raw with
        | some seconds => .ok (some seconds)
        | none => .error (.invalid .timeout raw) := by
  have hnames : ∀ n, secondsOfText? raw = some n ↔ _ := fun n =>
    secondsOfText?_eq_some_iff.trans namesSeconds_iff
  constructor
  · intro h
    cases h with
    | empty => exact absurd rfl given
    | seconds _ trims decimal pos fits => rw [(hnames _).2 ⟨_, trims, decimal, pos, fits⟩]
    | invalid _ trims unfit =>
      rcases hn : secondsOfText? raw with _ | n
      · rfl
      · obtain ⟨t, trims', decimal, hbounds⟩ := (hnames n).1 hn
        cases (trims_iff.1 trims).symm.trans (trims_iff.1 trims')
        exact absurd hbounds (unfit n decimal)
  · rintro rfl
    rcases hn : secondsOfText? raw with _ | n
    · refine .invalid given (trims_trim _) fun n decimal hbounds => ?_
      have hsome := (hnames n).2 ⟨_, trims_trim _, decimal, hbounds⟩
      rw [hn] at hsome
      cases hsome
    · obtain ⟨t, trims, decimal, pos, fits⟩ := (hnames n).1 hn
      exact .seconds given trims decimal pos fits

/-- **The texts that set a timeout.** What is read of it is what its variable says (`ReadsTimeout`),
and nothing else: none if it is unset or empty, the number if it names one that fits, and otherwise
that the value will not do. The address of the base is what its own variable holds, whatever the
timeout is. Digits that are taken one by one into a word of 64 bits give the same, however many they
are. -/
theorem timeout_language (lookup : Lookup) :
    (∀ read, (ask lookup).answer.map timeout = read ↔ ReadsTimeout (lookup .timeout) read) ∧
      (∀ o, (ask lookup).answer = .ok o → o.baseAddress = lookup.given .baseAddress) ∧
      ∀ raw, secondsOfText? raw = (wordOfText? raw).map UInt64.toNat := by
  refine ⟨fun read => ?_, fun o ho => (answer_ask_eq_ok_iff.1 ho).1, secondsOfText?_eq_wordOfText?⟩
  rw [timeout_answer_ask, Lookup.given]
  rcases lookup .timeout with _ | raw
  · constructor
    · rintro rfl
      exact .unset
    · rintro ⟨⟩
      rfl
  · by_cases hraw : raw = ""
    · subst hraw
      constructor
      · rintro rfl
        exact .empty
      · intro h
        cases h with
        | empty => rfl
        | seconds given | invalid given => exact absurd rfl given
    · rw [readsTimeout_some_iff hraw, Option.filter_some_pos (by simpa using hraw)]
      exact eq_comm

/-- The greatest number that fits, behind zeros, and the next one. -/
theorem timeout_language_at_bound :
    let raw (digits : String) : String := "\u3000+000" ++ digits ++ "\n"
    let lookup (digits : String) : Lookup := fun v =>
      if v = .timeout then some (raw digits) else some "http://stub"
    (∃ o, (ask (lookup "18446744073709551615")).answer = .ok o ∧
        o.baseAddress = some "http://stub") ∧
      ReadsTimeout (some (raw "18446744073709551615")) (.ok (some (Nat.pow 2 64 - 1))) ∧
      ReadsTimeout (some (raw "18446744073709551616"))
        (.error (.invalid .timeout (raw "18446744073709551616"))) := by
  intro raw lookup
  have hgiven (digits : String) : (lookup digits).given .timeout = some (raw digits) :=
    Option.filter_some_pos (by simp [raw])
  have hbase (digits : String) : (lookup digits).given .baseAddress = some "http://stub" := rfl
  have hfits : secondsOfText? (raw "18446744073709551615") = some (Nat.pow 2 64 - 1) := by
    decide +kernel
  have hover : secondsOfText? (raw "18446744073709551616") = none := by decide +kernel
  obtain ⟨hread, haddress, -⟩ := timeout_language (lookup "18446744073709551615")
  obtain ⟨hread', -, -⟩ := timeout_language (lookup "18446744073709551616")
  have hok : (ask (lookup "18446744073709551615")).answer =
      .ok { baseAddress := some "http://stub", timeout := some (Nat.pow 2 64 - 1) } := by
    simp only [answer_ask, hgiven, hfits, hbase]
  refine ⟨⟨_, hok, (haddress _ hok).trans (hbase _)⟩, (hread _).1 ?_, (hread' _).1 ?_⟩
  · simp only [timeout_answer_ask, hgiven, hfits]
  · simp only [timeout_answer_ask, hgiven, hover]

end ConnectionOptions

end CommitGate
