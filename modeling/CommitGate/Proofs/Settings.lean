import CommitGate.Settings

/-!
# What the variables have to hold

When settings can be read, said of the variables themselves:

* `Lookup.Holds` — a variable is set to a text that is not empty;
* `CheckRequest.answer_ask_eq_ok_iff` — a request can be read just if its four variables hold its
  parts;
* `secondsOfText?_eq_some_iff` — the texts that name a number of seconds: blanks around decimal
  digits, perhaps with a plus sign;
* `ConnectionOptions.answer_ask_eq_ok_iff` — the options can be read just if the timeout is left out
  or names a number of seconds.
-/

namespace CommitGate

/-! ### Asking -/

namespace Lookup

/-- The variable is set to this text, which is not empty. -/
def Holds (lookup : Lookup) (v : Variable) (text : String) : Prop :=
  lookup v = some text ∧ text ≠ ""

/-- The variable is unset or empty. -/
def Lacks (lookup : Lookup) (v : Variable) : Prop := ∀ text, ¬ Holds lookup v text

/-- The text of a variable that is set and not empty. -/
def given (lookup : Lookup) (v : Variable) : Option String :=
  (lookup v).filter fun value => value != ""

variable {lookup : Lookup} {v : Variable}

theorem given_eq_some_iff {text : String} : given lookup v = some text ↔ Holds lookup v text := by
  simp [given, Holds]

theorem given_eq_none_iff : given lookup v = none ↔ Lacks lookup v := by
  simp only [Lacks, ← given_eq_some_iff, Option.eq_none_iff_forall_ne_some]

/-- The text of a variable that is needed, or that it is unset. -/
def needed (lookup : Lookup) (v : Variable) : Except SettingsError String :=
  match given lookup v with
  | some text => .ok text
  | none => .error (.unset v)

theorem needed_eq_ok_iff {text : String} : needed lookup v = .ok text ↔ Holds lookup v text := by
  rw [needed, ← given_eq_some_iff]
  rcases given lookup v with _ | value <;> simp

end Lookup

namespace Asked

variable {α β : Type}

/-- Answers go through asking on. -/
theorem answer_bind (a : Asked α) (next : α → Asked β) :
    (a >>= next).answer = a.answer >>= fun x => (next x).answer := by
  rcases a with ⟨names, e | x⟩ <;> rfl

theorem answer_optional (lookup : Lookup) (v : Variable) :
    (optional lookup v).answer = .ok (lookup.given v) := rfl

theorem answer_required (lookup : Lookup) (v : Variable) :
    (required lookup v).answer = lookup.needed v := by
  rw [required, answer_bind, answer_optional, Lookup.needed]
  rcases lookup.given v with _ | value <;> rfl

end Asked

/-! ### What is checked -/

namespace CheckRequest

/-- A request is read from its four variables, in their order. -/
theorem answer_ask (lookup : Lookup) :
    (ask lookup).answer = do
      let repository ← lookup.needed .repository
      let commit ← lookup.needed .commit
      let credential ← lookup.needed .credential
      let requiredContext ← lookup.needed .requiredContext
      return { repository, commit, credential := ⟨credential⟩, requiredContext } := by
  simp only [ask, Asked.answer_bind, Asked.answer_required]
  rfl

/-- **A request can be read** just if its four variables hold its parts. -/
theorem answer_ask_eq_ok_iff {lookup : Lookup} {r : CheckRequest} :
    (ask lookup).answer = .ok r ↔
      lookup.Holds .repository r.repository ∧ lookup.Holds .commit r.commit ∧
        lookup.Holds .credential r.credential.expose ∧
        lookup.Holds .requiredContext r.requiredContext := by
  rw [answer_ask]
  simp only [← Lookup.needed_eq_ok_iff]
  rcases lookup.needed .repository with e | repository
  · simp [bind, Except.bind]
  rcases lookup.needed .commit with e | commit
  · simp [bind, Except.bind]
  rcases lookup.needed .credential with e | credential
  · simp [bind, Except.bind]
  rcases lookup.needed .requiredContext with e | requiredContext
  · simp [bind, Except.bind]
  obtain ⟨r1, r2, ⟨r3⟩, r4⟩ := r
  simp [bind, Except.bind, pure, Except.pure]

end CheckRequest

/-! ### Numbers of seconds -/

/-- The number that decimal digits name. -/
def decimalNumber (digits : List Char) : Nat :=
  digits.foldl (fun n c => n * 10 + (c.toNat - 0x30)) 0

/-- **The text names this number of seconds**: blanks, perhaps a plus sign, decimal digits for a
positive number of 64 bits, and blanks again. -/
structure NamesSeconds (raw : String) (n : Nat) : Prop where
  spelled : ∃ front sign digits behind : List Char,
    raw.toList = front ++ (sign ++ digits) ++ behind ∧
      (∀ c ∈ front, Text.isBlank c = true) ∧ (∀ c ∈ behind, Text.isBlank c = true) ∧
      (sign = [] ∨ sign = ['+']) ∧ digits ≠ [] ∧ (∀ c ∈ digits, c.isDigit = true) ∧
      n = decimalNumber digits
  pos : 0 < n
  lt : n < Nat.pow 2 64

theorem isDigit_iff {c : Char} : c.isDigit = true ↔ 0x30 ≤ c.toNat ∧ c.toNat ≤ 0x39 := by
  simp only [Char.isDigit, Bool.and_eq_true, decide_eq_true_eq, ge_iff_le, UInt32.le_iff_toNat_le]
  exact Iff.rfl

theorem not_isBlank_of_isDigit {c : Char} (h : c.isDigit = true) : ¬ Text.isBlank c = true := by
  rw [Text.isBlank, Text.mem_inRanges]
  obtain ⟨h1, h2⟩ := isDigit_iff.1 h
  rintro ⟨r, hr, h3, h4⟩
  simp only [Text.blankRanges, List.mem_cons, List.not_mem_nil, or_false] at hr
  rcases hr with rfl | rfl | rfl | rfl | rfl | rfl | rfl | rfl | rfl | rfl <;>
    simp only at h3 h4 <;> omega

/-- Trimming takes nothing off a text whose first and last characters are not blank. -/
theorem trim_eq {front core behind : List Char} (hf : ∀ c ∈ front, Text.isBlank c = true)
    (hb : ∀ c ∈ behind, Text.isBlank c = true)
    (hfirst : ∀ c, core.head? = some c → ¬ Text.isBlank c = true)
    (hlast : ∀ c, core.getLast? = some c → ¬ Text.isBlank c = true) (hne : core ≠ []) :
    Text.trim (front ++ core ++ behind) = core := by
  have hstart : ∀ l : List Char, (core ++ l).dropWhile Text.isBlank = core ++ l := by
    intro l
    obtain ⟨c, core, rfl⟩ := List.exists_cons_of_ne_nil hne
    rw [List.cons_append, List.dropWhile_cons_of_neg (hfirst c rfl)]
  have hend : ∀ l : List Char, (core.reverse ++ l).dropWhile Text.isBlank = core.reverse ++ l := by
    intro l
    obtain ⟨c, rest, hc⟩ := List.exists_cons_of_ne_nil (List.reverse_ne_nil_iff.2 hne)
    have hc' : core.getLast? = some c := by rw [← List.head?_reverse, hc]; rfl
    rw [hc, List.cons_append, List.dropWhile_cons_of_neg (hlast c hc')]
  have hend' := hend []
  rw [List.append_nil] at hend'
  rw [Text.trim, List.append_assoc, List.dropWhile_append_of_pos hf, hstart, Text.trimEnd,
    List.reverse_append, List.dropWhile_append_of_pos (by simpa using hb), hend',
    List.reverse_reverse]

/-- What stands in a text for a number is what is left of it when it is trimmed. -/
theorem trim_eq_of_digits {front sign digits behind : List Char}
    (hf : ∀ c ∈ front, Text.isBlank c = true) (hb : ∀ c ∈ behind, Text.isBlank c = true)
    (hs : sign = [] ∨ sign = ['+']) (hne : digits ≠ []) (hd : ∀ c ∈ digits, c.isDigit = true) :
    Text.trim (front ++ (sign ++ digits) ++ behind) = sign ++ digits := by
  have hlast : ∀ c, (sign ++ digits).getLast? = some c → c ∈ digits := by
    intro c hc
    rw [List.getLast?_append, List.getLast?_eq_some_getLast hne, Option.some_or,
      Option.some.injEq] at hc
    exact hc ▸ List.getLast_mem hne
  refine trim_eq hf hb ?_ (fun c hc => not_isBlank_of_isDigit (hd c (hlast c hc))) (by simp [hne])
  intro c hc
  rcases hs with rfl | rfl
  · exact not_isBlank_of_isDigit (hd c (List.mem_of_head? hc))
  · simp only [List.cons_append, List.head?_cons, Option.some.injEq] at hc
    subst hc
    decide

/-- **The numbers of seconds that texts name.** -/
theorem secondsOfText?_eq_some_iff {raw : String} {n : Nat} :
    secondsOfText? raw = some n ↔ NamesSeconds raw n := by
  constructor
  · intro h
    unfold secondsOfText? at h
    extract_lets trimmed digits at h
    obtain ⟨front, behind, hraw, hf, hb⟩ := Text.exists_trim raw.toList
    have hsplit : ∃ sign, trimmed = sign ++ digits ∧ (sign = [] ∨ sign = ['+']) := by
      by_cases hp : trimmed.head? = some '+'
      · obtain ⟨t, ht⟩ := List.head?_eq_some_iff.1 hp
        exact ⟨['+'], by simp [digits, ht], .inr rfl⟩
      · exact ⟨[], by simp [digits, hp], .inl rfl⟩
    obtain ⟨sign, ht, hs⟩ := hsplit
    simp only [Bool.or_eq_true, List.isEmpty_iff, Bool.not_eq_true', Bool.not_eq_true,
      List.all_eq_false] at h
    split at h
    · cases h
    · next hok =>
      split at h
      · next hbound =>
        rw [Option.some.injEq] at h
        subst h
        rw [not_or] at hok
        refine ⟨⟨front, sign, digits, behind, ?_, hf, hb, hs, hok.1, ?_, rfl⟩, hbound.1, hbound.2⟩
        · rw [← ht]; exact hraw
        · simpa using hok.2
      · cases h
  · rintro ⟨⟨front, sign, digits, behind, hraw, hf, hb, hs, hne, hd, hn⟩, hpos, hlt⟩
    unfold secondsOfText?
    rw [hraw, trim_eq_of_digits hf hb hs hne hd]
    have hdigits : (if (sign ++ digits).head? = some '+' then (sign ++ digits).tail
        else sign ++ digits) = digits := by
      rcases hs with rfl | rfl
      · obtain ⟨c, t, rfl⟩ := List.exists_cons_of_ne_nil hne
        have hc : c ≠ '+' := by
          rintro rfl
          exact absurd (hd '+' (by simp)) (by decide)
        simp [hc]
      · simp
    simp only [hdigits]
    have hall : digits.all Char.isDigit = true := List.all_eq_true.2 hd
    rw [decimalNumber] at hn
    simp [hall, hne, ← hn, hpos, hlt]

/-! ### How the server is reached -/

namespace ConnectionOptions

/-- Options are read from their two variables, neither of which is needed. -/
theorem answer_ask (lookup : Lookup) :
    (ask lookup).answer =
      match lookup.given .timeout with
      | none => .ok { baseAddress := lookup.given .baseAddress, timeout := none }
      | some raw =>
        match secondsOfText? raw with
        | some seconds =>
          .ok { baseAddress := lookup.given .baseAddress, timeout := some seconds }
        | none => .error (.invalid .timeout raw) := by
  simp only [ask, Asked.answer_bind, Asked.answer_optional]
  rcases lookup.given .timeout with _ | raw
  · rfl
  · simp only [bind, Except.bind]
    rcases secondsOfText? raw with _ | seconds <;> rfl

/-- **Options can be read** just if the timeout is left out or names a number of seconds. -/
theorem answer_ask_eq_ok_iff {lookup : Lookup} {o : ConnectionOptions} :
    (ask lookup).answer = .ok o ↔
      o.baseAddress = lookup.given .baseAddress ∧
        (lookup.Lacks .timeout ∧ o.timeout = none ∨
          ∃ raw n, lookup.Holds .timeout raw ∧ NamesSeconds raw n ∧ o.timeout = some n) := by
  rw [answer_ask]
  simp only [← Lookup.given_eq_none_iff, ← Lookup.given_eq_some_iff, ← secondsOfText?_eq_some_iff]
  obtain ⟨baseAddress, timeout⟩ := o
  rcases lookup.given .timeout with _ | raw
  · simp [eq_comm]
  · rcases hn : secondsOfText? raw with _ | n
    · simp [hn]
    · simp [hn, eq_comm]

end ConnectionOptions

end CommitGate
