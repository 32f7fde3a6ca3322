import CommitGate.Address.Basic
import Mathlib.Data.List.TakeWhile

/-!
# What a path and a query are read from

A path and a query are legal if each character may stand where it does. A text is read into the one
legal path and query that are written in front of its first `#`, and into nothing if there is none
(`Target.parse_eq_ok_iff`); the same holds of an address that begins with a slash, if it is not too
long (`Address.parse_route_eq_ok_iff`). A route that can be read can be sent as it is just if it has
no `#` (`isSendable_iff`).
-/

namespace CommitGate

theorem ne_mark_of_isPathChar {c : Char} (h : isPathChar c = true) : c ≠ '?' ∧ c ≠ '#' := by
  constructor
  · rintro rfl
    cases h
  · rintro rfl
    cases h

theorem ne_hash_of_isQueryChar {c : Char} (h : isQueryChar c = true) : c ≠ '#' := by
  rintro rfl
  cases h

/-- A run ends at the first member that does not belong to it. -/
theorem takeWhile_append_of_stop {α : Type} {p : α → Bool} {run rest : List α}
    (hrun : ∀ c ∈ run, p c = true) (hstop : ∀ c ∈ rest.head?, p c = false) :
    (run ++ rest).takeWhile p = run := by
  rw [List.takeWhile_append_of_pos hrun]
  rcases rest with _ | ⟨c, rest⟩
  · simp
  · rw [List.takeWhile_cons_of_neg (by simpa using hstop c rfl), List.append_nil]

/-- The text in front of the first `#`. -/
def beforeHash (s : List Char) : List Char := s.takeWhile (· != '#')

theorem beforeHash_eq_self_iff {s : List Char} : beforeHash s = s ↔ '#' ∉ s := by
  rw [beforeHash, List.takeWhile_eq_self_iff]
  constructor
  · intro h hmem
    simpa using h '#' hmem
  · intro h c hc
    simp only [bne_iff_ne]
    rintro rfl
    exact h hc

theorem beforeHash_append {s rest : List Char} (hs : '#' ∉ s) :
    beforeHash (s ++ rest) = s ++ beforeHash rest := by
  refine List.takeWhile_append_of_pos fun c hc => ?_
  simp only [bne_iff_ne]
  rintro rfl
  exact hs hc

/-- Behind the text in front of the first `#` stands that `#`, or nothing. -/
theorem exists_eq_beforeHash_append (s : List Char) :
    ∃ rest, s = beforeHash s ++ rest ∧ ∀ c ∈ rest.head?, c = '#' := by
  refine ⟨s.dropWhile (· != '#'), List.takeWhile_append_dropWhile.symm, fun c hc => ?_⟩
  have hstop := List.head?_dropWhile_not (· != '#') s
  rw [Option.mem_def.1 hc] at hstop
  simpa using hstop

namespace Target

/-- **Each character may stand where it does.** -/
structure IsLegal (t : Target) : Prop where
  path : ∀ c ∈ t.path, isPathChar c = true
  query : ∀ query, t.query = some query → ∀ c ∈ query, isQueryChar c = true

theorem IsLegal.no_hash {t : Target} (h : t.IsLegal) : '#' ∉ t.toText := by
  obtain ⟨path, _ | query⟩ := t
  · exact fun hmem => (ne_mark_of_isPathChar (h.path _ hmem)).2 rfl
  · intro hmem
    simp only [toText, List.mem_append, List.mem_cons] at hmem
    rcases hmem with hmem | hmark | hmem
    · exact (ne_mark_of_isPathChar (h.path _ hmem)).2 rfl
    · cases hmark
    · exact ne_hash_of_isQueryChar (h.query query rfl _ hmem) rfl

/-- What is read of a text with this path in front of the rest. -/
def behindPath (path : List Char) : List Char → Except AddressError Target
  | '?' :: behind =>
    if (beforeHash behind).all isQueryChar then .ok { path, query := some (beforeHash behind) }
    else .error .invalidCharacter
  | _ => .ok { path }

section Parse

variable {path rest : List Char}

/-- The reader takes the path up to the first question mark or `#`. -/
theorem parse_append (hpath : ∀ c ∈ path, c ≠ '?' ∧ c ≠ '#')
    (hrest : ∀ c ∈ rest.head?, c = '?' ∨ c = '#') :
    parse (path ++ rest) =
      if !path.all isPathChar then .error .invalidCharacter else behindPath path rest := by
  have htake : (path ++ rest).takeWhile (fun c => c != '?' && c != '#') = path := by
    refine takeWhile_append_of_stop (fun c hc => ?_) fun c hc => ?_
    · simpa using hpath c hc
    · rcases hrest c hc with rfl | rfl
      · rfl
      · rfl
  simp only [parse, htake, List.drop_left]
  rfl

/-- The path that is read of a text with this path in front of the rest. -/
theorem path_of_parse {t : Target} (hpath : ∀ c ∈ path, c ≠ '?' ∧ c ≠ '#')
    (hrest : ∀ c ∈ rest.head?, c = '?' ∨ c = '#') (h : parse (path ++ rest) = .ok t) :
    t.path = path := by
  rw [parse_append hpath hrest] at h
  split at h
  · cases h
  unfold behindPath at h
  split at h
  · split at h
    · cases h
      rfl
    · cases h
  · cases h
    rfl

theorem exists_eq_path_append (s : List Char) :
    ∃ path rest, s = path ++ rest ∧ (∀ c ∈ path, c ≠ '?' ∧ c ≠ '#') ∧
      ∀ c ∈ rest.head?, c = '?' ∨ c = '#' := by
  refine ⟨s.takeWhile fun c => c != '?' && c != '#', s.dropWhile fun c => c != '?' && c != '#',
    List.takeWhile_append_dropWhile.symm, fun c hc => ?_, fun c hc => ?_⟩
  · simpa using List.mem_takeWhile_imp hc
  · have hstop := List.head?_dropWhile_not (fun c => c != '?' && c != '#') s
    rw [Option.mem_def.1 hc] at hstop
    simpa only [Bool.and_eq_false_iff, bne_eq_false_iff_eq] using hstop

/-- What is read is legal, and is what was written. -/
theorem of_parse {s : List Char} {t : Target} (h : parse s = .ok t) :
    t.IsLegal ∧ t.toText = beforeHash s := by
  obtain ⟨path, rest, rfl, hpath, hrest⟩ := exists_eq_path_append s
  have hhash : '#' ∉ path := fun hmem => (hpath _ hmem).2 rfl
  rw [parse_append hpath hrest] at h
  rw [beforeHash_append hhash]
  split at h
  · cases h
  next hall =>
  have hlegal : ∀ c ∈ path, isPathChar c = true := by simpa using hall
  unfold behindPath at h
  split at h
  · next behind =>
    split at h
    · next hquery =>
      cases h
      refine ⟨⟨hlegal, fun query hq => ?_⟩, ?_⟩
      · cases hq
        exact List.all_eq_true.1 hquery
      · simp [toText, beforeHash]
    · cases h
  · next hmark =>
    cases h
    refine ⟨⟨hlegal, fun query hq => by cases hq⟩, ?_⟩
    rcases rest with _ | ⟨c, rest⟩
    · simp [toText, beforeHash]
    · obtain rfl : c = '#' := (hrest c rfl).resolve_left fun hc => hmark rest (by rw [hc])
      simp [toText, beforeHash]

/-- What is legal is read where it is written. -/
theorem IsLegal.parse_eq {t : Target} (h : t.IsLegal) (hrest : ∀ c ∈ rest.head?, c = '#') :
    parse (t.toText ++ rest) = .ok t := by
  have hpath : ∀ c ∈ t.path, c ≠ '?' ∧ c ≠ '#' := fun c hc => ne_mark_of_isPathChar (h.path c hc)
  have hall : t.path.all isPathChar = true := List.all_eq_true.2 h.path
  obtain ⟨path, _ | query⟩ := t
  · rw [toText, parse_append hpath fun c hc => .inr (hrest c hc), hall]
    rcases rest with _ | ⟨c, rest⟩
    · rfl
    · obtain rfl : c = '#' := hrest c rfl
      rfl
  · have hquery : beforeHash (query ++ rest) = query := by
      refine takeWhile_append_of_stop (fun c hc => ?_) fun c hc => ?_
      · simpa using ne_hash_of_isQueryChar (h.query query rfl c hc)
      · rw [hrest c hc]
        rfl
    have hall' : query.all isQueryChar = true := List.all_eq_true.2 (h.query query rfl)
    rw [toText, List.append_assoc, List.cons_append, parse_append hpath (by simp), hall]
    simp only [behindPath, hquery, hall', Bool.not_true, Bool.false_eq_true, if_false, if_true]

/-- **A text is read** into the legal path and query that are written in front of its first `#`. -/
theorem parse_eq_ok_iff {s : List Char} {t : Target} :
    parse s = .ok t ↔ t.IsLegal ∧ t.toText = beforeHash s := by
  refine ⟨of_parse, fun ⟨hlegal, htext⟩ => ?_⟩
  obtain ⟨rest, hs, hrest⟩ := exists_eq_beforeHash_append s
  rw [hs, ← htext]
  exact hlegal.parse_eq hrest

/-- **The path and the query can be asked for**: they are legal, and the path starts with a slash. -/
structure IsRooted (t : Target) : Prop where
  legal : t.IsLegal
  slash : ∃ rest, t.path = '/' :: rest

theorem IsRooted.head?_toText {t : Target} (h : t.IsRooted) : t.toText.head? = some '/' := by
  obtain ⟨path, _ | query⟩ := t
  · obtain ⟨-, rest, rfl⟩ := h
    rfl
  · obtain ⟨-, rest, rfl⟩ := h
    rfl

theorem isRooted_of_parse {t : Target} (h : parse ('/' :: rest) = .ok t) : t.IsRooted := by
  refine ⟨(of_parse h).1, ?_⟩
  obtain ⟨path, behind, hs, hpath, hbehind⟩ := exists_eq_path_append ('/' :: rest)
  rw [hs] at h
  rw [path_of_parse hpath hbehind h]
  rcases path with _ | ⟨c, path⟩
  · rw [List.nil_append] at hs
    rw [← hs] at hbehind
    exact absurd (hbehind '/' rfl) (by decide)
  · obtain rfl : '/' = c := (List.cons_eq_cons.1 hs).1
    exact ⟨path, rfl⟩

end Parse

end Target

/-! ### Routes -/

/-- **The text can be read as a path and a query**: it is not too long, and in front of its first `#`
stands a legal path and query. -/
structure IsReadable (s : List Char) : Prop where
  short : Text.byteLength s ≤ Address.maxLength
  legal : ∃ t : Target, t.IsLegal ∧ t.toText = beforeHash s

/-- **The text can be sent as it is**: it is not too long, and all of it is a legal path and
query. -/
structure IsSendable (s : List Char) : Prop where
  short : Text.byteLength s ≤ Address.maxLength
  legal : ∃ t : Target, t.IsLegal ∧ t.toText = s

theorem isSendable_iff {s : List Char} : IsSendable s ↔ IsReadable s ∧ '#' ∉ s := by
  constructor
  · rintro ⟨hshort, t, hlegal, rfl⟩
    have hhash := hlegal.no_hash
    exact ⟨⟨hshort, t, hlegal, (beforeHash_eq_self_iff.2 hhash).symm⟩, hhash⟩
  · rintro ⟨⟨hshort, t, hlegal, htext⟩, hhash⟩
    exact ⟨hshort, t, hlegal, htext.trans (beforeHash_eq_self_iff.2 hhash)⟩

namespace Address

variable {rest : List Char}

theorem parse_route (rest : List Char) :
    parse ('/' :: rest) =
      if maxLength < Text.byteLength ('/' :: rest) then .error .tooLong
      else
        match Target.parse ('/' :: rest) with
        | .error e => .error e
        | .ok target => .ok { scheme := none, authority := [], target } := rfl

/-- **A route is read** as the legal path and query in front of its first `#`, if it is not too
long. -/
theorem parse_route_eq_ok_iff {address : Address} :
    parse ('/' :: rest) = .ok address ↔
      Text.byteLength ('/' :: rest) ≤ maxLength ∧ address.scheme = none ∧ address.authority = [] ∧
        address.target.IsLegal ∧ address.target.toText = beforeHash ('/' :: rest) := by
  obtain ⟨scheme, authority, target⟩ := address
  rw [parse_route, ← Target.parse_eq_ok_iff]
  by_cases hlong : maxLength < Text.byteLength ('/' :: rest)
  · rw [if_pos hlong]
    simp [Nat.not_le.2 hlong]
  · rw [if_neg hlong]
    rcases Target.parse ('/' :: rest) with e | target'
    · simp
    · simp [Nat.not_lt.1 hlong, eq_comm]

theorem exists_parse_route_iff :
    (∃ address, parse ('/' :: rest) = .ok address) ↔ IsReadable ('/' :: rest) := by
  constructor
  · rintro ⟨address, hp⟩
    obtain ⟨hshort, -, -, hlegal, htext⟩ := parse_route_eq_ok_iff.1 hp
    exact ⟨hshort, _, hlegal, htext⟩
  · rintro ⟨hshort, target, hlegal, htext⟩
    exact ⟨⟨none, [], target⟩, parse_route_eq_ok_iff.2 ⟨hshort, rfl, rfl, hlegal, htext⟩⟩

end Address

end CommitGate
