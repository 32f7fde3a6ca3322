import CommitGate.Address.Origin
import CommitGate.Proofs.Address.Parts

/-!
# The server of an address

An authority consists of visible characters of ASCII (`isVisible_of_isAuthority`), and so does the
host that is taken from it. Only an address with a scheme has an origin, and the host of the origin is
the host of the address in lower case (`Address.of_origin?`).
-/

namespace CommitGate

/-! ### Characters of an authority -/

theorem AuthorityScan.isAuthorityChar_of_next? {scan scan' : AuthorityScan} {c : Char}
    (h : scan.next? c = some scan') : isAuthorityChar c = true := by
  by_contra hc
  simp [next?, hc] at h

theorem AuthorityScan.isAuthorityChar_of_foldlM {s : List Char} {scan scan' : AuthorityScan}
    (h : s.foldlM next? scan = some scan') : ∀ c ∈ s, isAuthorityChar c = true := by
  induction s generalizing scan with
  | nil => exact List.forall_mem_nil _
  | cons c s ih =>
    rw [List.foldlM_cons, Option.bind_eq_bind, Option.bind_eq_some_iff] at h
    obtain ⟨next, hnext, hrest⟩ := h
    exact List.forall_mem_cons.2 ⟨isAuthorityChar_of_next? hnext, ih hrest⟩

theorem isAuthorityChar_of_isAuthority {s : List Char} (h : isAuthority s = true) :
    ∀ c ∈ s, isAuthorityChar c = true := by
  unfold isAuthority at h
  split at h
  · next hscan => exact AuthorityScan.isAuthorityChar_of_foldlM hscan
  · cases h

/-- The character is a visible one of ASCII. -/
def IsVisibleAscii (c : Char) : Prop := 0x21 ≤ c.toNat ∧ c.toNat < 0x7F

theorem lt_of_isAlphanum {c : Char} (h : c.isAlphanum = true) : c.toNat < 0x80 := by
  have hranges : (decide ('A'.val ≤ c.val ∧ c.val ≤ 'Z'.val) ||
      (decide ('a'.val ≤ c.val) && decide (c.val ≤ 'z'.val)) ||
      (decide ('0'.val ≤ c.val) && decide (c.val ≤ '9'.val))) = true := h
  simp only [Bool.or_eq_true, Bool.and_eq_true, decide_eq_true_eq, UInt32.le_iff_toNat_le,
    Char.reduceVal, UInt32.reduceToNat] at hranges
  rw [Char.toNat]
  omega

theorem lt_of_isAuthorityChar {c : Char} (h : isAuthorityChar c = true) : c.toNat < 0x80 := by
  simp only [isAuthorityChar, Bool.or_eq_true] at h
  rcases h with h | h
  · exact lt_of_isAlphanum h
  · have hall : "!$&'()*+,-.:;=@[]_~%".toList.all (·.toNat < 0x80) = true := by decide
    simpa using List.all_eq_true.1 hall c (by simpa using h)

theorem toLower_authority_code : ∀ n < 0x80, isAuthorityChar (Char.ofNat n) = true →
    0x21 ≤ (Char.ofNat n).toLower.toNat ∧ (Char.ofNat n).toLower.toNat < 0x7F := by
  decide +kernel

theorem isVisibleAscii_toLower {c : Char} (h : isAuthorityChar c = true) :
    IsVisibleAscii c.toLower := by
  have hcode := toLower_authority_code c.toNat (lt_of_isAuthorityChar h)
  rw [Char.ofNat_toNat] at hcode
  exact hcode h

/-! ### Hosts -/

theorem mem_of_mem_behindLast? {p : Char → Bool} {s part : List Char}
    (h : behindLast? p s = some part) {c : Char} (hc : c ∈ part) : c ∈ s := by
  unfold behindLast? at h
  split at h
  · cases h
    rw [List.mem_reverse] at hc
    exact List.mem_reverse.1 ((List.takeWhile_sublist _).subset hc)
  · cases h

namespace Address

variable {address : Address} {origin : Origin}

/-- The characters of a host stand in its authority, or close its bracket. -/
theorem mem_host {c : Char} (h : c ∈ address.host) : c ∈ address.authority ∨ c = ']' := by
  have hserver : ∀ c ∈ (behindLast? (· == '@') address.authority).getD address.authority,
      c ∈ address.authority := by
    intro c hc
    rcases hlast : behindLast? (· == '@') address.authority with _ | part
    · rwa [hlast] at hc
    · rw [hlast] at hc
      exact mem_of_mem_behindLast? hlast hc
  unfold host at h
  simp only at h
  split at h
  · rcases List.mem_append.1 h with h | h
    · exact .inl (hserver c ((List.takeWhile_sublist _).subset h))
    · exact .inr (List.mem_singleton.1 h)
  · exact .inl (hserver c ((List.takeWhile_sublist _).subset h))

/-- **Only an address with a scheme has an origin**, and the host of that is its own. -/
theorem of_origin? (h : address.origin? = some origin) :
    address.scheme ≠ none ∧ origin.host.toList = address.host.map Char.toLower := by
  unfold origin? at h
  simp only at h
  split at h
  · cases h
  split at h
  · next hscheme =>
    cases h
    rw [hscheme]
    exact ⟨by simp, String.toList_ofList⟩
  · next hscheme =>
    cases h
    rw [hscheme]
    exact ⟨by simp, String.toList_ofList⟩
  · cases h

/-- The host of an origin consists of visible characters. -/
theorem isVisibleAscii_of_origin? (hauthority : isAuthority address.authority = true)
    (h : address.origin? = some origin) : ∀ c ∈ origin.host.toList, IsVisibleAscii c := by
  intro c hc
  rw [(of_origin? h).2] at hc
  obtain ⟨c', hmem, rfl⟩ := List.mem_map.1 hc
  refine isVisibleAscii_toLower ?_
  rcases mem_host hmem with hmem | rfl
  · exact isAuthorityChar_of_isAuthority hauthority c' hmem
  · decide

end Address

end CommitGate
