import CommitGate.Address.Host
import CommitGate.Text.Quoted

/-!
# Reading quoted text back

A reader goes through a text character by character and takes out what stands between quotes, with
all that is escaped put back (`QuoteScan`). `Tells text values` says that it finds just these values
in the text, and that each character of the text is visible. It holds of a quoted value
(`tells_quote`) and of text without quotes (`tells_plain`), and is closed under putting texts one
behind the other (`Tells.append`), so what is put together from such parts can be read back
(`Tells.valuesIn?_eq`). A quote inside a quoted value always stands behind a backslash that escapes it
(`endsEscaping_of_quoteBody`), and what is visible is neither a control character nor a line break.
-/

namespace CommitGate.Text

/-! ### The reader -/

/-- Where in a text the reader is. -/
inductive QuotePlace where
  /-- Not between quotes. -/
  | outside
  /-- Between quotes, behind these characters of a value. -/
  | inside (part : List Char)
  /-- Behind a backslash. -/
  | escaped (part : List Char)
  /-- Behind the letter that announces a code. -/
  | announced (part : List Char)
  /-- Among the digits of a code, which come to this number so far. -/
  | code (part : List Char) (n : Nat)
deriving DecidableEq

/-- What the reader has found, and where it is. -/
structure QuoteScan where
  values : List String := []
  place : QuotePlace := .outside
deriving DecidableEq

/-- The character that a letter behind a backslash stands for. -/
def unescape? (letter : Char) : Option Char :=
  if letter = '\x22' then some '\x22'
  else if letter = '\\' then some '\\'
  else if letter = 't' then some '\t'
  else if letter = 'n' then some '\n'
  else if letter = 'r' then some '\r'
  else if letter = '0' then some '\x00'
  else none

/-- Takes in one more character, unless it may not stand there. -/
def QuoteScan.next? (scan : QuoteScan) (c : Char) : Option QuoteScan :=
  match scan.place with
  | .outside => some { scan with place := if c = '\x22' then .inside [] else .outside }
  | .inside part =>
    if c = '\x22' then
      some { values := scan.values ++ [String.ofList part], place := .outside }
    else if c = '\\' then some { scan with place := .escaped part }
    else some { scan with place := .inside (part ++ [c]) }
  | .escaped part =>
    if c = 'u' then some { scan with place := .announced part }
    else (unescape? c).map fun d => { scan with place := .inside (part ++ [d]) }
  | .announced part => if c = '\x7b' then some { scan with place := .code part 0 } else none
  | .code part n =>
    if c = '\x7d' then some { scan with place := .inside (part ++ [Char.ofNat n]) }
    else (Host.digit? 16 c).map fun d => { scan with place := .code part (n * 16 + d) }

/-- The values that a text has between quotes, if it is outside all quotes at its end. -/
def valuesIn? (text : String) : Option (List String) :=
  (text.toList.foldlM QuoteScan.next? {}).bind fun scan =>
    if scan.place = .outside then some scan.values else none

/-! ### What is written for one character -/

/-- The character is visible, and neither a quote nor a backslash. -/
structure IsPlainMark (c : Char) : Prop where
  visible : isVisible c = true
  ne_quote : c ≠ '\x22'
  ne_backslash : c ≠ '\\'

/-- **The ways to write a character between quotes**: with a letter behind a backslash, as itself,
or by its code. -/
inductive QuoteForm (c : Char) : (text : List Char) → Prop
  | letter {letter : Char} (stands : unescape? letter = some c) (ne_u : letter ≠ 'u')
      (visible : isVisible letter = true) : QuoteForm c ['\\', letter]
  | self (plain : IsPlainMark c) : QuoteForm c [c]
  | code : QuoteForm c (['\\', 'u'] ++ ('\x7b' :: hexNumeral c.toNat ++ ['\x7d']))

theorem quoteForm_of_escapeLetter? {c letter : Char} (h : escapeLetter? c = some letter) :
    QuoteForm c ['\\', letter] := by
  unfold escapeLetter? at h
  repeat' split at h
  all_goals cases h
  all_goals subst_vars
  all_goals exact .letter (by decide) (by decide) (by decide)

theorem quoteForm_quoteChar (c : Char) : QuoteForm c (quoteChar c) := by
  unfold quoteChar
  split
  · next letter hletter => exact quoteForm_of_escapeLetter? hletter
  · next hnone =>
    split
    · next hvisible =>
      refine .self ⟨hvisible, ?_, ?_⟩
      · rintro rfl
        cases hnone
      · rintro rfl
        cases hnone
    · exact .code

theorem digit?_hexDigit : ∀ d < 16, Host.digit? 16 (hexDigit d) = some d := by decide

theorem hexDigit_plain : ∀ d < 16, isVisible (hexDigit d) = true ∧ hexDigit d ≠ '\x22' ∧
    hexDigit d ≠ '\\' ∧ hexDigit d ≠ '\x7d' := by decide +kernel

theorem exists_of_mem_hexNumeral {n : Nat} {c : Char} (h : c ∈ hexNumeral n) :
    ∃ d < 16, c = hexDigit d := by
  fun_induction hexNumeral n with
  | case1 n hn => exact ⟨n, hn, List.mem_singleton.1 h⟩
  | case2 n hn ih =>
    rcases List.mem_append.1 h with h | h
    · exact ih h
    · exact ⟨n % 16, Nat.mod_lt n (by omega), List.mem_singleton.1 h⟩

/-- The digits of a code and the braces around them are plain. -/
theorem isPlainMark_of_mem_code {n : Nat} {d : Char}
    (h : d ∈ '\x7b' :: hexNumeral n ++ ['\x7d']) : IsPlainMark d := by
  rw [List.cons_append, List.mem_cons, List.mem_append] at h
  rcases h with rfl | h | h
  · exact ⟨by decide, by decide, by decide⟩
  · obtain ⟨k, hk, rfl⟩ := exists_of_mem_hexNumeral h
    obtain ⟨hvisible, hquote, hback, -⟩ := hexDigit_plain k hk
    exact ⟨hvisible, hquote, hback⟩
  · obtain rfl := List.mem_singleton.1 h
    exact ⟨by decide, by decide, by decide⟩

theorem QuoteForm.forall_isVisible {c : Char} {text : List Char} (h : QuoteForm c text) :
    ∀ d ∈ text, isVisible d = true := by
  intro d hd
  cases h with
  | letter stands ne_u visible =>
    rcases List.mem_cons.1 hd with rfl | hd
    · decide
    · obtain rfl := List.mem_singleton.1 hd
      exact visible
  | self plain =>
    obtain rfl := List.mem_singleton.1 hd
    exact plain.visible
  | code =>
    rcases List.mem_append.1 hd with hd | hd
    · have hmarks : d = '\\' ∨ d = 'u' := by simpa using hd
      rcases hmarks with rfl | rfl
      · decide
      · decide
    · exact (isPlainMark_of_mem_code hd).visible

/-! ### The reader on what is written -/

section Reader

variable {values : List String} {part : List Char}

theorem foldlM_hexNumeral (n : Nat) :
    (hexNumeral n).foldlM QuoteScan.next? ⟨values, .code part 0⟩ =
      some ⟨values, .code part n⟩ := by
  -- one digit takes the number from `m` to sixteen times that and the digit
  have hdigit (m d : Nat) (hd : d < 16) :
      QuoteScan.next? ⟨values, .code part m⟩ (hexDigit d) =
        some ⟨values, .code part (m * 16 + d)⟩ := by
    obtain ⟨-, -, -, hbrace⟩ := hexDigit_plain d hd
    simp only [QuoteScan.next?, if_neg hbrace, digit?_hexDigit d hd, Option.map_some]
  fun_induction hexNumeral n with
  | case1 n hn =>
    have hstep := hdigit 0 n hn
    rw [Nat.zero_mul, Nat.zero_add] at hstep
    rw [List.foldlM_cons, hstep]
    rfl
  | case2 n hn ih =>
    have hstep := hdigit (n / 16) (n % 16) (Nat.mod_lt n (by omega))
    have hn : n / 16 * 16 + n % 16 = n := by omega
    rw [hn] at hstep
    rw [List.foldlM_append, ih, Option.bind_eq_bind, Option.bind_some, List.foldlM_cons, hstep]
    rfl

/-- **One step**: what is written for a character is read as that character. -/
theorem QuoteForm.foldlM_eq {c : Char} {text : List Char} (h : QuoteForm c text) :
    text.foldlM QuoteScan.next? ⟨values, .inside part⟩ =
      some ⟨values, .inside (part ++ [c])⟩ := by
  cases h with
  | letter stands ne_u visible => simp [QuoteScan.next?, ne_u, stands]
  | self plain => simp [QuoteScan.next?, plain.ne_quote, plain.ne_backslash]
  | code =>
    have hopen : ['\\', 'u', '\x7b'].foldlM QuoteScan.next? ⟨values, .inside part⟩ =
        some ⟨values, .code part 0⟩ := rfl
    have hclose : QuoteScan.next? ⟨values, .code part c.toNat⟩ '\x7d' =
        some ⟨values, .inside (part ++ [c])⟩ := by
      simp [QuoteScan.next?]
    have hsplit : ['\\', 'u'] ++ ('\x7b' :: hexNumeral c.toNat ++ ['\x7d']) =
        ['\\', 'u', '\x7b'] ++ hexNumeral c.toNat ++ ['\x7d'] := rfl
    rw [hsplit, List.foldlM_append, List.foldlM_append, hopen]
    simp only [Option.bind_eq_bind, Option.bind_some, foldlM_hexNumeral, List.foldlM_cons, hclose]
    rfl

theorem foldlM_quoteBody (s : List Char) :
    (quoteBody s).foldlM QuoteScan.next? ⟨values, .inside part⟩ =
      some ⟨values, .inside (part ++ s)⟩ := by
  induction s generalizing part with
  | nil =>
    rw [List.append_nil]
    rfl
  | cons c s ih =>
    have hcons : quoteBody (c :: s) = quoteChar c ++ quoteBody s := List.flatMap_cons
    rw [hcons, List.foldlM_append, (quoteForm_quoteChar c).foldlM_eq, Option.bind_eq_bind,
      Option.bind_some, ih, List.append_assoc]
    rfl

theorem toList_quote (s : String) :
    (quote s).toList = '\x22' :: quoteBody s.toList ++ ['\x22'] := String.toList_ofList

theorem foldlM_quote (s : String) :
    (quote s).toList.foldlM QuoteScan.next? ⟨values, .outside⟩ =
      some ⟨values ++ [s], .outside⟩ := by
  rw [toList_quote, List.cons_append, List.foldlM_cons]
  have hopen : QuoteScan.next? ⟨values, .outside⟩ '\x22' = some ⟨values, .inside []⟩ := rfl
  rw [hopen, Option.bind_eq_bind, Option.bind_some, List.foldlM_append, foldlM_quoteBody]
  simp [QuoteScan.next?]

theorem foldlM_of_no_quote {s : List Char} (h : '\x22' ∉ s) :
    s.foldlM QuoteScan.next? ⟨values, .outside⟩ = some ⟨values, .outside⟩ := by
  induction s with
  | nil => rfl
  | cons c s ih =>
    rw [List.mem_cons, not_or] at h
    have hstep : QuoteScan.next? ⟨values, .outside⟩ c = some ⟨values, .outside⟩ := by
      simp [QuoteScan.next?, Ne.symm h.1]
    rw [List.foldlM_cons, hstep, Option.bind_eq_bind, Option.bind_some]
    exact ih h.2

end Reader

/-! ### Texts that tell values -/

/-- **The text tells these values in quotes**: a reader that is outside all quotes finds just them,
and is outside all quotes behind the text; and each character of the text is visible. -/
structure Tells (text : String) (values : List String) : Prop where
  reads : ∀ before, text.toList.foldlM QuoteScan.next? ⟨before, .outside⟩ =
    some ⟨before ++ values, .outside⟩
  visible : ∀ c ∈ text.toList, isVisible c = true

section Tells

variable {text text' : String} {values values' : List String}

/-- The values can be read back. -/
theorem Tells.valuesIn?_eq (h : Tells text values) : valuesIn? text = some values := by
  have hread := h.reads []
  rw [List.nil_append] at hread
  rw [valuesIn?, hread]
  rfl

/-- A text tells one row of values. -/
theorem Tells.values_eq (h : Tells text values) (h' : Tells text' values') (heq : text = text') :
    values = values' := by
  have hread := h'.valuesIn?_eq
  rw [← heq, h.valuesIn?_eq] at hread
  exact Option.some.inj hread

theorem Tells.append (h : Tells text values) (h' : Tells text' values') :
    Tells (text ++ text') (values ++ values') := by
  refine ⟨fun before => ?_, fun c hc => ?_⟩
  · rw [String.toList_append, List.foldlM_append, h.reads, Option.bind_eq_bind, Option.bind_some,
      h'.reads, List.append_assoc]
  · rw [String.toList_append] at hc
    rcases List.mem_append.1 hc with hc | hc
    · exact h.visible c hc
    · exact h'.visible c hc

theorem tells_quote (s : String) : Tells (quote s) [s] := by
  refine ⟨fun before => foldlM_quote s, fun c hc => ?_⟩
  rw [toList_quote, List.cons_append, List.mem_cons, List.mem_append] at hc
  rcases hc with rfl | hc | hc
  · decide
  · obtain ⟨d, -, hmem⟩ := List.mem_flatMap.1 hc
    exact (quoteForm_quoteChar d).forall_isVisible c hmem
  · obtain rfl := List.mem_singleton.1 hc
    decide

/-- A text without quotes tells no values. -/
theorem tells_plain (h : text.toList.all (fun c => isVisible c && c != '\x22') = true) :
    Tells text [] := by
  simp only [List.all_eq_true, Bool.and_eq_true, bne_iff_ne] at h
  refine ⟨fun before => ?_, fun c hc => (h c hc).1⟩
  rw [List.append_nil]
  exact foldlM_of_no_quote fun hquote => (h _ hquote).2 rfl

end Tells

/-! ### Quotes inside, and characters that are not visible -/

/-- The text ends with a backslash that no other one escapes, so that it escapes what follows. -/
def endsEscaping (s : List Char) : Bool := s.foldl (fun escaping c => !escaping && c == '\\') false

theorem endsEscaping_append (s t : List Char) (h : endsEscaping s = false) :
    endsEscaping (s ++ t) = endsEscaping t := by
  unfold endsEscaping at h ⊢
  rw [List.foldl_append, h]

theorem endsEscaping_of_no_backslash {s : List Char} (h : '\\' ∉ s) : endsEscaping s = false := by
  unfold endsEscaping
  induction s with
  | nil => rfl
  | cons c s ih =>
    rw [List.mem_cons, not_or] at h
    have hc : (c == '\\') = false := by simpa using Ne.symm h.1
    rw [List.foldl_cons, hc, Bool.and_false]
    exact ih h.2

/-- What is written for a character escapes nothing behind it. -/
theorem QuoteForm.endsEscaping_eq {c : Char} {text : List Char} (h : QuoteForm c text) :
    endsEscaping text = false := by
  cases h with
  | letter => rfl
  | self plain =>
    exact endsEscaping_of_no_backslash fun h => plain.ne_backslash (List.mem_singleton.1 h).symm
  | code =>
    rw [endsEscaping_append _ _ (by decide)]
    exact endsEscaping_of_no_backslash fun h => (isPlainMark_of_mem_code h).ne_backslash rfl

/-- A quote in what is written for a character stands behind a backslash. -/
theorem QuoteForm.eq_of_quote {c : Char} {text front behind : List Char} (h : QuoteForm c text)
    (hsplit : text = front ++ '\x22' :: behind) : front = ['\\'] := by
  have hmem : '\x22' ∈ text := by
    rw [hsplit]
    simp
  cases h with
  | letter =>
    rcases front with _ | ⟨first, _ | ⟨second, front⟩⟩
    · simp at hsplit
    · rw [(List.cons_eq_cons.1 hsplit).1]
    · simp at hsplit
  | self plain => exact absurd (List.mem_singleton.1 hmem).symm plain.ne_quote
  | code =>
    rcases List.mem_append.1 hmem with hmem | hmem
    · simp at hmem
    · exact absurd rfl (isPlainMark_of_mem_code hmem).ne_quote

/-- **Each quote between the quotes is escaped**: what stands in front of it ends with a backslash
that is not escaped itself. -/
theorem endsEscaping_of_quoteBody {s front behind : List Char}
    (h : quoteBody s = front ++ '\x22' :: behind) : endsEscaping front = true := by
  induction s generalizing front with
  | nil =>
    have hnil : quoteBody [] = [] := rfl
    simp [hnil] at h
  | cons c s ih =>
    have hcons : quoteBody (c :: s) = quoteChar c ++ quoteBody s := List.flatMap_cons
    rw [hcons] at h
    rcases List.append_eq_append_iff.1 h with ⟨more, hfront, hbody⟩ | ⟨more, hchar, hbody⟩
    · rw [hfront, endsEscaping_append _ _ (quoteForm_quoteChar c).endsEscaping_eq]
      exact ih hbody
    rcases more with _ | ⟨mark, more⟩
    · -- the quote would be the first character of what follows, with nothing in front of it
      have hempty : endsEscaping [] = true := ih (by simpa using hbody.symm)
      cases hempty
    · obtain rfl : '\x22' = mark := (List.cons_eq_cons.1 hbody).1
      rw [(quoteForm_quoteChar c).eq_of_quote hchar]
      rfl

/-- The character is a control character. -/
def IsControl (c : Char) : Prop := c.toNat < 0x20 ∨ 0x7F ≤ c.toNat ∧ c.toNat < 0xA0

/-- The character is one at which a line may be broken: a line feed, a vertical tab, a form feed, a
carriage return, a next line, or a separator of lines or paragraphs. -/
def BreaksLine (c : Char) : Prop :=
  0x0A ≤ c.toNat ∧ c.toNat ≤ 0x0D ∨ c.toNat = 0x85 ∨ c.toNat = 0x2028 ∨ c.toNat = 0x2029

theorem isVisible_eq_false_of_range {c : Char} {r : Nat × Nat} (hr : r ∈ hiddenRanges)
    (hfirst : 0x80 ≤ c.toNat) (hlow : r.1 ≤ c.toNat) (hhigh : c.toNat ≤ r.2) :
    isVisible c = false := by
  have hhidden : inRanges hiddenRanges c.toNat = true := mem_inRanges.2 ⟨r, hr, hlow, hhigh⟩
  rw [isVisible, if_neg (by omega), hhidden]
  rfl

/-- **A visible character is no control character and breaks no line.** -/
theorem not_control_of_isVisible {c : Char} (h : isVisible c = true) :
    ¬ IsControl c ∧ ¬ BreaksLine c := by
  have hlow : 0x20 ≤ c.toNat ∧ c.toNat ≠ 0x7F := by
    by_cases hascii : c.toNat < 0x80
    · rw [isVisible, if_pos hascii, Bool.and_eq_true, decide_eq_true_eq, decide_eq_true_eq] at h
      omega
    · omega
  have hsecond : ¬ (0x80 ≤ c.toNat ∧ c.toNat ≤ 0xA0) := by
    rintro ⟨hfirst, hlast⟩
    have hhidden := isVisible_eq_false_of_range (r := (0x80, 0xA0)) (by decide) hfirst hfirst hlast
    exact Bool.false_ne_true (hhidden.symm.trans h)
  have hseparator : ¬ (0x2028 ≤ c.toNat ∧ c.toNat ≤ 0x202F) := by
    rintro ⟨hfirst, hlast⟩
    have hhidden :=
      isVisible_eq_false_of_range (r := (0x2028, 0x202F)) (by decide) (by omega) hfirst hlast
    exact Bool.false_ne_true (hhidden.symm.trans h)
  unfold IsControl BreaksLine
  omega

end CommitGate.Text
