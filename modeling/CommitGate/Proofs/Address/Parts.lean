import CommitGate.Proofs.Address.Target

/-!
# The parts of an address

A text with a scheme falls into four parts in one way only: the name of the scheme, the marks behind
it, the server, and what stands behind the server (`HasParts.unique`). It is an address just if the
parts are well formed (`Address.parse_eq_ok_iff`), and an address that is read with a scheme has such
parts (`Address.exists_hasParts`).
-/

namespace CommitGate

/-- **A text with a scheme falls into these parts**: the name of the scheme, behind `://` the server,
and behind that the rest, which starts where a server ends. -/
structure HasParts (s name server behind : List Char) : Prop where
  text : s = name ++ "://".toList ++ (server ++ behind)
  name : ∀ c ∈ name, isSchemeChar c = true
  server : ∀ c ∈ server, endsAuthority c = false
  behind : ∀ c ∈ behind.head?, endsAuthority c = true

theorem endsAuthority_iff {c : Char} :
    endsAuthority c = true ↔ c = '/' ∨ c = '?' ∨ c = '#' := by
  simp [endsAuthority, or_assoc]

/-- Characters among which there is no mark that ends a server do not end one. -/
theorem endsAuthority_eq_false {p : Char → Bool} {c : Char} (h : p c = true)
    (hslash : p '/' = false) (hquestion : p '?' = false) (hhash : p '#' = false) :
    endsAuthority c = false := by
  refine Bool.eq_false_iff.2 fun hends => ?_
  rcases endsAuthority_iff.1 hends with rfl | rfl | rfl
  · exact Bool.eq_false_iff.1 hslash h
  · exact Bool.eq_false_iff.1 hquestion h
  · exact Bool.eq_false_iff.1 hhash h

/-- What a run of characters leaves behind it does not start with one of them. -/
theorem exists_eq_takeWhile_append (p : Char → Bool) (s : List Char) :
    ∃ rest, s = s.takeWhile p ++ rest ∧ s.drop (s.takeWhile p).length = rest ∧
      ∀ c ∈ rest.head?, p c = false := by
  have hsplit : s.takeWhile p ++ s.dropWhile p = s := List.takeWhile_append_dropWhile
  refine ⟨s.dropWhile p, hsplit.symm, ?_, fun c hc => ?_⟩
  · have hdrop : (s.takeWhile p ++ s.dropWhile p).drop (s.takeWhile p).length = s.dropWhile p :=
      List.drop_left
    rwa [hsplit] at hdrop
  · have hstop := List.head?_dropWhile_not p s
    rw [Option.mem_def.1 hc] at hstop
    simpa using hstop

theorem splitScheme?_append {name rest : List Char} (hname : ∀ c ∈ name, isSchemeChar c = true) :
    splitScheme? (name ++ "://".toList ++ rest) = some (name, rest) := by
  have htake : (name ++ "://".toList ++ rest).takeWhile isSchemeChar = name := by
    rw [List.append_assoc]
    refine takeWhile_append_of_stop hname fun c hc => ?_
    obtain rfl : ':' = c := by simpa using hc
    decide
  have hdrop : (name ++ "://".toList ++ rest).drop name.length = "://".toList ++ rest := by
    rw [List.append_assoc, List.drop_left]
  simp only [splitScheme?, htake, hdrop]
  rfl

theorem of_splitScheme? {s name rest : List Char} (h : splitScheme? s = some (name, rest)) :
    s = name ++ "://".toList ++ rest ∧ ∀ c ∈ name, isSchemeChar c = true := by
  obtain ⟨tail, hs, hdrop, -⟩ := exists_eq_takeWhile_append isSchemeChar s
  simp only [splitScheme?, hdrop] at h
  split at h
  · next behind =>
    simp only [Option.some.injEq, Prod.mk.injEq] at h
    obtain ⟨hname, rfl⟩ := h
    refine ⟨?_, fun c hc => ?_⟩
    · rw [← hname, List.append_assoc]
      exact hs
    · rw [← hname] at hc
      exact List.mem_takeWhile_imp hc
  · cases h

namespace HasParts

variable {s name server behind : List Char}

theorem splitScheme?_eq (h : HasParts s name server behind) :
    splitScheme? s = some (name, server ++ behind) := by
  rw [h.text]
  exact splitScheme?_append h.name

theorem takeWhile_eq (h : HasParts s name server behind) :
    (server ++ behind).takeWhile (fun c => !endsAuthority c) = server := by
  refine takeWhile_append_of_stop (fun c hc => ?_) fun c hc => ?_
  · rw [h.server c hc]
    rfl
  · rw [h.behind c hc]
    rfl

/-- **There is one way** in which a text falls into parts. -/
theorem unique {name' server' behind' : List Char} (h : HasParts s name server behind)
    (h' : HasParts s name' server' behind') :
    name' = name ∧ server' = server ∧ behind' = behind := by
  have hsplit := h.splitScheme?_eq
  rw [h'.splitScheme?_eq, Option.some.injEq, Prod.mk.injEq] at hsplit
  obtain ⟨hname, hrest⟩ := hsplit
  have hserver : server' = server := by rw [← h'.takeWhile_eq, hrest, h.takeWhile_eq]
  rw [hserver] at hrest
  exact ⟨hname, hserver, List.append_cancel_left hrest⟩

/-- A text with these parts starts with a letter of the scheme or with the colon behind it. -/
theorem head_ne (h : HasParts s name server behind) :
    (∀ rest, s ≠ '/' :: rest) ∧ s ≠ [] ∧ s ≠ ['*'] := by
  obtain ⟨rfl, hname, -, -⟩ := h
  rcases name with _ | ⟨c, name⟩
  · refine ⟨fun rest => ?_, ?_, ?_⟩ <;> simp
  · have hc := hname c List.mem_cons_self
    refine ⟨fun rest hrest => ?_, by simp, fun hrest => ?_⟩
    · obtain rfl : c = '/' := by simpa using congrArg List.head? hrest
      exact absurd hc (by decide)
    · obtain rfl : c = '*' := by simpa using congrArg List.head? hrest
      exact absurd hc (by decide)

end HasParts

/-- What is read behind a server starts with a slash, if it has a path at all. -/
theorem Target.path_eq_nil_or_isRooted {behind : List Char} {t : Target}
    (h : parse behind = .ok t) (hbehind : ∀ c ∈ behind.head?, endsAuthority c = true) :
    t.path = [] ∨ t.IsRooted := by
  rcases behind with _ | ⟨c, behind⟩
  · cases h
    exact .inl rfl
  rcases endsAuthority_iff.1 (hbehind c rfl) with rfl | hmark
  · exact .inr (isRooted_of_parse h)
  · refine .inl (path_of_parse (List.forall_mem_nil _) (fun c' hc' => ?_) h)
    cases hc'
    exact hmark

namespace Address

variable {s name server behind : List Char} {address : Address}

/-- What is read of a text with a scheme. -/
theorem parse_of_hasParts (h : HasParts s name server behind) :
    parse s =
      if maxLength < Text.byteLength s then .error .tooLong
      else if maxSchemeLength < name.length then .error .malformed
      else if server.isEmpty || !isAuthority server then .error .malformed
      else
        (Target.parse behind).map fun target =>
          { scheme := some (.ofName name), authority := server, target } := by
  obtain ⟨hslash, hnil, hstar⟩ := h.head_ne
  unfold parse
  split
  · rfl
  split
  · exact absurd rfl hnil
  · exact absurd rfl (hslash _)
  · exact absurd rfl hstar
  · simp only [h.splitScheme?_eq, h.takeWhile_eq, List.drop_left]
    rcases Target.parse behind with e | target <;> rfl

/-- **A text with a scheme is an address** just if it is not too long and its parts are well formed;
the address is then made of these parts. -/
theorem parse_eq_ok_iff (h : HasParts s name server behind) :
    parse s = .ok address ↔
      Text.byteLength s ≤ maxLength ∧ name.length ≤ maxSchemeLength ∧
        address.scheme = some (.ofName name) ∧ address.authority = server ∧ server ≠ [] ∧
        isAuthority server = true ∧ Target.parse behind = .ok address.target := by
  obtain ⟨scheme, authority, target⟩ := address
  rw [parse_of_hasParts h]
  by_cases hlong : maxLength < Text.byteLength s
  · rw [if_pos hlong]
    simp [Nat.not_le.2 hlong]
  by_cases hname : maxSchemeLength < name.length
  · rw [if_neg hlong, if_pos hname]
    simp [Nat.not_le.2 hname]
  by_cases hserver : server.isEmpty || !isAuthority server
  · rw [if_neg hlong, if_neg hname, if_pos hserver]
    have hfalse : server ≠ [] → isAuthority server = false := by simpa [imp_iff_not_or] using hserver
    simp +contextual [hfalse]
  · have htrue : server ≠ [] ∧ isAuthority server = true := by simpa using hserver
    rw [if_neg hlong, if_neg hname, if_neg hserver]
    rcases Target.parse behind with e | target'
    · simp [Except.map]
    · simp [Except.map, Nat.not_lt.1 hlong, Nat.not_lt.1 hname, htrue, eq_comm]

/-- **What is read of a text**: an address without a scheme, or one of a text with parts. -/
theorem schemeless_or_hasParts (h : parse s = .ok address) :
    (address.scheme = none ∧ (isAuthority s = true ∨ (∃ rest, s = '/' :: rest) ∨ s = ['*'])) ∨
      ∃ name server behind, HasParts s name server behind := by
  unfold parse at h
  split at h
  · cases h
  split at h
  · cases h
  · split at h
    · cases h
    · cases h
      exact .inl ⟨rfl, .inr (.inl ⟨_, rfl⟩)⟩
  · cases h
    exact .inl ⟨rfl, .inr (.inr rfl)⟩
  · split at h
    · split at h
      · next halone =>
        cases h
        exact .inl ⟨rfl, .inl halone⟩
      · cases h
    · next name rest hsplit =>
      obtain ⟨hs, hname⟩ := of_splitScheme? hsplit
      obtain ⟨behind, hrest, -, hbehind⟩ :=
        exists_eq_takeWhile_append (fun c => !endsAuthority c) rest
      refine .inr ⟨name, rest.takeWhile fun c => !endsAuthority c, behind, ?_, hname, fun c hc => ?_,
        fun c hc => ?_⟩
      · rw [← hrest]
        exact hs
      · simpa using List.mem_takeWhile_imp hc
      · simpa using hbehind c hc

/-- **An address that is read with a scheme** was written in parts. -/
theorem exists_hasParts {scheme : Scheme} (h : parse s = .ok address)
    (hscheme : address.scheme = some scheme) :
    ∃ name behind, HasParts s name address.authority behind ∧ scheme = .ofName name ∧
      isAuthority address.authority = true ∧ Target.parse behind = .ok address.target := by
  rcases schemeless_or_hasParts h with ⟨hnone, -⟩ | ⟨name, server, behind, hparts⟩
  · cases hnone.symm.trans hscheme
  obtain ⟨-, -, hofName, rfl, -, hisAuthority, htarget⟩ := (parse_eq_ok_iff hparts).1 h
  exact ⟨name, behind, hparts, Option.some.inj (hscheme.symm.trans hofName), hisAuthority, htarget⟩

end Address

end CommitGate
