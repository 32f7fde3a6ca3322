import CommitGate.Json.Numeral
import CommitGate.Proofs.Json.Reader

/-!
# What the readers of numbers take

A number shows where it ends only by what follows it: its parts are steps that look at one byte
behind them (`peeks_spelled`).
-/

namespace CommitGate.Json

open Relation (Comp)

/-! ### Digits -/

/-- The digits `ds`, and no digit behind them. -/
def Digits (ds : Bytes) (s rest : Bytes) : Prop := digitsOf s = ds ∧ skipDigits s = rest

theorem peeks_digits (ds : Bytes) : Peeks (Digits ds) := by
  rintro s _ ⟨rfl, rfl⟩
  refine ⟨digitsOf s, List.takeWhile_append_dropWhile.symm, fun behind hhead => ?_⟩
  have hdigits : ∀ b ∈ digitsOf s, isDigit b = true := fun b hb => List.mem_takeWhile_imp hb
  have hstop := List.head?_dropWhile_not isDigit s
  rw [show s.dropWhile isDigit = skipDigits s from rfl, ← hhead] at hstop
  rw [Digits, digitsOf, skipDigits, List.takeWhile_append_of_pos hdigits,
    List.dropWhile_append_of_pos hdigits]
  rcases behind with _ | ⟨b, t⟩
  · simp
  · have hb : isDigit b = false := hstop
    simp [hb]

theorem skipDigits_eq_self {s : Bytes} (h : digitsOf s = []) : skipDigits s = s := by
  have hsplit : digitsOf s ++ skipDigits s = s := List.takeWhile_append_dropWhile
  rwa [h, List.nil_append] at hsplit

/-- The digits `ds`, of which there is one. -/
def SomeDigits (ds : Bytes) (s rest : Bytes) : Prop :=
  ∃ b others, (isDigit b = true ∧ ds = b :: others) ∧ Comp (Literal [b]) (Digits others) s rest

theorem someDigits_cons_iff {ds t rest : Bytes} {b : UInt8} :
    SomeDigits ds (b :: t) rest ↔ isDigit b = true ∧ ds = b :: digitsOf t ∧ skipDigits t = rest := by
  constructor
  · rintro ⟨b', others, ⟨hb, rfl⟩, u, hs, rfl, rfl⟩
    cases hs
    exact ⟨hb, rfl, rfl⟩
  · rintro ⟨hb, rfl, rfl⟩
    exact ⟨b, _, ⟨hb, rfl⟩, t, rfl, rfl, rfl⟩

theorem not_someDigits_nil {ds rest : Bytes} : ¬ SomeDigits ds [] rest := by
  rintro ⟨b, others, -, u, hs, -⟩
  cases hs

theorem peeks_someDigits (ds : Bytes) : Peeks (SomeDigits ds) := by
  rintro s rest ⟨b, others, hb, h⟩
  exact ((closes_literal b []).peeks.comp (peeks_digits others) _ _ h).mono fun _ _ h =>
    ⟨b, others, hb, h⟩

/-! ### The parts of a number -/

/-- The digits of the whole part; a zero stands alone. -/
def Whole (ds : Bytes) (s rest : Bytes) : Prop :=
  (ds.head? = some 0x30 → ds = [0x30]) ∧ SomeDigits ds s rest

theorem reads_readWhole_iff {ds s rest : Bytes} : Reads readWhole ds s rest ↔ Whole ds s rest := by
  rcases s with _ | ⟨b, t⟩
  · simp [Reads, readWhole, Whole, not_someDigits_nil, Except.map]
  rw [Whole, someDigits_cons_iff, Reads, readWhole]
  split
  · next hb =>
    subst hb
    split
    · next hno =>
      rw [List.isEmpty_iff] at hno
      simp only [Except.map, Taken.pair, Except.ok.injEq, Prod.mk.injEq, hno,
        skipDigits_eq_self hno]
      constructor
      · rintro ⟨rfl, rfl⟩
        exact ⟨fun _ => rfl, by decide, rfl, rfl⟩
      · rintro ⟨-, -, rfl, rfl⟩
        exact ⟨rfl, rfl⟩
    · next hsome =>
      simp only [Except.map, reduceCtorEq, false_iff]
      rintro ⟨halone, -, rfl, -⟩
      have := halone rfl
      simp only [List.cons.injEq, true_and] at this
      exact hsome (List.isEmpty_iff.2 this)
  next hb =>
  split
  · next hdigit =>
    simp only [Except.map, Taken.pair, Except.ok.injEq, Prod.mk.injEq, hdigit, true_and]
    constructor
    · rintro ⟨rfl, rfl⟩
      exact ⟨fun h => absurd (Option.some.inj h) hb, rfl, rfl⟩
    · rintro ⟨-, rfl, rfl⟩
      exact ⟨rfl, rfl⟩
  · next hdigit => simp [hdigit, Except.map]

theorem peeks_whole (ds : Bytes) : Peeks (Whole ds) := by
  rintro s rest ⟨hds, h⟩
  exact (peeks_someDigits ds _ _ h).mono fun _ _ h => ⟨hds, h⟩

/-- Nothing, in front of a byte that is none of `marks` or at the end. -/
def Without (marks : List UInt8) (s rest : Bytes) : Prop :=
  s = rest ∧ ∀ b ∈ marks, s.head? ≠ some b

theorem peeks_without (marks : List UInt8) : Peeks (Without marks) := by
  rintro s _ ⟨rfl, h⟩
  refine ⟨[], rfl, fun behind hhead => ⟨rfl, ?_⟩⟩
  rw [List.nil_append, hhead]
  exact h

/-- The digits behind the point, or nothing if there is no point. -/
def Fraction (ds : Bytes) (s rest : Bytes) : Prop :=
  (ds = [] ∧ Without [0x2E] s rest) ∨ (ds ≠ [] ∧ Comp (Literal [0x2E]) (Digits ds) s rest)

theorem fraction_point_iff {ds t rest : Bytes} :
    Fraction ds (0x2E :: t) rest ↔ ds ≠ [] ∧ Digits ds t rest := by
  constructor
  · rintro (⟨-, -, hno⟩ | ⟨hds, u, hs, h⟩)
    · exact absurd rfl (hno 0x2E (List.mem_singleton_self _))
    · cases hs
      exact ⟨hds, h⟩
  · rintro ⟨hds, h⟩
    exact .inr ⟨hds, t, rfl, h⟩

theorem readFraction_eq_ok_iff {ds s rest : Bytes} :
    (readFraction s).map (fun p => (p.1, p.2.1)) = .ok (ds, rest) ↔ Fraction ds s rest := by
  rcases s with _ | ⟨b, t⟩
  · simp [readFraction, Fraction, Without, Comp, Literal, Suffix.whole, Except.map]
  rw [readFraction]
  split
  · next hb =>
    rw [hb, fraction_point_iff]
    split
    · next hno =>
      simp only [Except.map, reduceCtorEq, false_iff]
      rintro ⟨hds, rfl, -⟩
      exact hds (List.isEmpty_iff.1 hno)
    · next hsome =>
      simp only [Except.map, Except.ok.injEq, Prod.mk.injEq]
      constructor
      · rintro ⟨rfl, rfl⟩
        exact ⟨fun h => hsome (List.isEmpty_iff.2 h), rfl, rfl⟩
      · rintro ⟨-, rfl, rfl⟩
        exact ⟨rfl, rfl⟩
  · next hb => simp [Fraction, Without, Comp, Literal, hb, Suffix.whole, Except.map]

theorem peeks_fraction (ds : Bytes) : Peeks (Fraction ds) := by
  rintro s rest (⟨hds, h⟩ | ⟨hds, h⟩)
  · exact (peeks_without _ _ _ h).mono fun _ _ h => .inl ⟨hds, h⟩
  · exact ((closes_literal 0x2E []).peeks.comp (peeks_digits ds) _ _ h).mono fun _ _ h =>
      .inr ⟨hds, h⟩

/-- The sign of a power of ten. -/
def PowerSign (negative : Bool) (s rest : Bytes) : Prop :=
  (negative = true ∧ Literal [0x2D] s rest) ∨
    negative = false ∧ (Literal [0x2B] s rest ∨ Without [0x2D, 0x2B] s rest)

theorem readPowerSign_iff {negative : Bool} {s rest : Bytes} :
    (readPowerSign s).1 = negative ∧ (readPowerSign s).2.1 = rest ↔ PowerSign negative s rest := by
  unfold PowerSign Without Literal
  rcases s with _ | ⟨b, t⟩
  · simp [readPowerSign, Suffix.whole]
  by_cases hminus : b = 0x2D
  · simp [readPowerSign, hminus]
  by_cases hplus : b = 0x2B
  · simp [readPowerSign, hplus]
  · simp [readPowerSign, hminus, hplus, Suffix.whole]

theorem peeks_powerSign (negative : Bool) : Peeks (PowerSign negative) := by
  rintro s rest (⟨hn, h⟩ | ⟨hn, h | h⟩)
  · exact ((closes_literal _ _).peeks _ _ h).mono fun _ _ h => .inl ⟨hn, h⟩
  · exact ((closes_literal _ _).peeks _ _ h).mono fun _ _ h => .inr ⟨hn, .inl h⟩
  · exact (peeks_without _ _ _ h).mono fun _ _ h => .inr ⟨hn, .inr h⟩

/-- The power of ten, or nothing if there is no mark of one. -/
def Power (power : Option (Bool × Bytes)) (s rest : Bytes) : Prop :=
  (power = none ∧ Without [0x65, 0x45] s rest) ∨
    ∃ mark negative ds, ((mark = 0x65 ∨ mark = 0x45) ∧ power = some (negative, ds)) ∧
      Comp (Literal [mark]) (Comp (PowerSign negative) (SomeDigits ds)) s rest

theorem power_cons_iff {power : Option (Bool × Bytes)} {b : UInt8} {t rest : Bytes}
    (hmark : b = 0x65 ∨ b = 0x45) :
    Power power (b :: t) rest ↔
      ∃ ds, power = some ((readPowerSign t).1, ds) ∧ SomeDigits ds (readPowerSign t).2.1 rest := by
  constructor
  · rintro (⟨-, -, hno⟩ | ⟨mark, negative, ds, ⟨-, rfl⟩, u, hs, v, hsign, hds⟩)
    · rcases hmark with rfl | rfl <;> simp at hno
    · cases hs
      obtain ⟨rfl, rfl⟩ := readPowerSign_iff.2 hsign
      exact ⟨ds, rfl, hds⟩
  · rintro ⟨ds, rfl, hds⟩
    exact .inr ⟨b, _, ds, ⟨hmark, rfl⟩, t, rfl, _, readPowerSign_iff.1 ⟨rfl, rfl⟩, hds⟩

theorem readPower_eq_ok_iff {power : Option (Bool × Bytes)} {s rest : Bytes} :
    (readPower s).map (fun p => (p.1, p.2.1)) = .ok (power, rest) ↔ Power power s rest := by
  rcases s with _ | ⟨b, t⟩
  · simp [readPower, Power, Without, Comp, Literal, Suffix.whole, Except.map, eq_comm]
  by_cases hmark : b = 0x65 ∨ b = 0x45
  · rw [power_cons_iff hmark, readPower, if_pos hmark]
    dsimp only
    split
    · next h => simp [h, not_someDigits_nil, Except.map]
    · next c v h =>
      simp only [h, someDigits_cons_iff]
      split
      · next hc =>
        simp only [hc, true_and, Except.map, Except.ok.injEq, Prod.mk.injEq]
        constructor
        · rintro ⟨rfl, rfl⟩
          exact ⟨_, rfl, rfl, rfl⟩
        · rintro ⟨_, rfl, rfl, rfl⟩
          exact ⟨rfl, rfl⟩
      · next hc => simp [hc, Except.map]
  · rw [not_or] at hmark
    simp only [readPower, hmark, or_self, if_false, Suffix.whole, Except.map, Except.ok.injEq,
      Prod.mk.injEq]
    constructor
    · rintro ⟨rfl, rfl⟩
      exact .inl ⟨rfl, rfl, by simp [hmark]⟩
    · rintro (⟨rfl, rfl, -⟩ | ⟨mark, _, _, ⟨hm, -⟩, _, hs, -⟩)
      · exact ⟨rfl, rfl⟩
      · cases hs
        exact absurd hm (not_or.2 hmark)

theorem peeks_power (power : Option (Bool × Bytes)) : Peeks (Power power) := by
  rintro s rest (⟨hp, h⟩ | ⟨mark, negative, ds, hp, h⟩)
  · exact (peeks_without _ _ _ h).mono fun _ _ h => .inl ⟨hp, h⟩
  · have hpeek := (closes_literal mark []).peeks.comp
      ((peeks_powerSign negative).comp (peeks_someDigits ds))
    exact (hpeek _ _ h).mono fun _ _ h => .inr ⟨mark, negative, ds, hp, h⟩

/-! ### Numbers -/

/-- The parts of a number behind its sign. -/
def Unsigned (n : Spelling) : Bytes → Bytes → Prop :=
  Comp (Whole n.whole) (Comp (Fraction n.fraction) (Power n.power))

theorem reads_readUnsigned_iff {n : Spelling} {negative : Bool} {s rest : Bytes} :
    Reads (readUnsigned negative) n s rest ↔ n.negative = negative ∧ Unsigned n s rest := by
  obtain ⟨sign, ds, fraction, power⟩ := n
  rw [Reads, readUnsigned, Unsigned]
  rcases hw : readWhole s with f | whole
  · simp [not_comp_of_not fun u hu => not_reads_of_error hw (reads_readWhole_iff.2 hu), Except.map]
  rw [comp_iff_of_iff fun u => reads_readWhole_iff.symm.trans (reads_iff_of_ok hw)]
  have hfraction : ∀ u, Fraction fraction whole.rest u ↔ _ := fun u => readFraction_eq_ok_iff.symm
  rcases hf : readFraction whole.rest with f | ⟨fraction', t⟩
  · have hno : ∀ u, ¬ Fraction fraction whole.rest u := fun u => by simp [hfraction, hf, Except.map]
    simp [hf, not_comp_of_not hno, Except.map]
  have hone : ∀ u, Fraction fraction whole.rest u ↔ fraction' = fraction ∧ t.1 = u := fun u => by
    simp [hfraction, hf, Except.map]
  rw [comp_iff_of_iff hone, ← readPower_eq_ok_iff]
  rcases hp : readPower t.1 with f | ⟨power', u⟩
  · simp [hf, hp, Except.map]
  · simp [hf, hp, Except.map, Taken.pair, and_assoc, eq_comm]

theorem peeks_unsigned (n : Spelling) : Peeks (Unsigned n) :=
  (peeks_whole _).comp ((peeks_fraction _).comp (peeks_power _))

/-- **The parts of a number**, perhaps with a minus sign in front. -/
def Spelled (n : Spelling) (s rest : Bytes) : Prop :=
  (n.negative = true ∧ Comp (Literal [0x2D]) (Unsigned n) s rest) ∨
    n.negative = false ∧ Unsigned n s rest

theorem not_unsigned_minus {n : Spelling} {t rest : Bytes} : ¬ Unsigned n (0x2D :: t) rest := by
  rintro ⟨u, ⟨-, hwhole⟩, -⟩
  rw [someDigits_cons_iff] at hwhole
  exact absurd hwhole.1 (by decide)

theorem reads_readSpelling_iff {n : Spelling} {s rest : Bytes} :
    Reads readSpelling n s rest ↔ Spelled n s rest := by
  rcases s with _ | ⟨b, t⟩
  · simp [Reads, readSpelling, Spelled, Unsigned, Comp, Literal, Whole, not_someDigits_nil,
      Except.map]
  rw [Reads, readSpelling, Spelled]
  split
  · next hb =>
    subst hb
    have hminus : ∀ u, Literal [0x2D] (0x2D :: t) u ↔ True ∧ t = u := fun u => by simp [Literal]
    rw [comp_iff_of_iff hminus, true_and, ← reads_readUnsigned_iff, Reads]
    simp only [not_unsigned_minus, and_false, or_false]
    rcases readUnsigned true t with f | r
    · simp [Except.map]
    · simp [Except.map, Taken.pair, Taken.lift]
  · next hb =>
    have hno : ¬ Comp (Literal [0x2D]) (Unsigned n) (b :: t) rest :=
      not_comp_of_not fun u hu => hb (List.cons.inj hu).1
    rw [← Reads, reads_readUnsigned_iff]
    simp [hno]

theorem peeks_spelled (n : Spelling) : Peeks (Spelled n) := by
  rintro s rest (⟨hn, h⟩ | ⟨hn, h⟩)
  · exact ((closes_literal 0x2D []).peeks.comp (peeks_unsigned n) _ _ h).mono fun _ _ h =>
      .inl ⟨hn, h⟩
  · exact (peeks_unsigned n _ _ h).mono fun _ _ h => .inr ⟨hn, h⟩

theorem reads_skipNumber_iff {s rest : Bytes} :
    Reads skipNumber () s rest ↔ ∃ n, Spelled n s rest := by
  simp only [← reads_readSpelling_iff, Reads, skipNumber]
  rcases readSpelling s with f | r <;> simp [Except.map, Taken.pair, Taken.map]

end CommitGate.Json
