import CommitGate.Client

/-!
# Setting up clients

A client is built from an address and a credential just if the one can be read and the other may be
sent; it then has both as they are (`Client.build_eq_ok_iff`). Setting up is refused for the address
alone (`Client.build_eq_refused_iff`), and it crashes for the credential, which is looked at behind
the address (`Client.build_eq_crashed_iff`).
-/

namespace CommitGate

/-- **The text has a control character of ASCII other than the tab**, so that no header may hold
it. -/
def Secret.HasControl (token : Secret) : Prop :=
  ∃ c ∈ token.expose.toList, c ≠ '\t' ∧ (c.toNat < 0x20 ∨ c.toNat = 0x7F)

namespace Client

/-- The text that the address of the base is read from. -/
def baseText (baseAddress : Option String) : List Char :=
  (baseAddress.map String.toList).getD defaultBase

/-- Setting up looks at the address and then at the credential. -/
theorem build_eq (token : Option Secret) (options : ConnectionOptions) :
    build token options =
      match Address.parse (baseText options.baseAddress) with
      | .error _ => .error (.refused unusableAddress)
      | .ok base =>
        if token.all isLegalToken then .ok { base, token, timeout := options.timeout }
        else .error .crashed := rfl

/-- **A client is built** just if the address of the base can be read and the credential may be
sent. -/
theorem build_eq_ok_iff {token : Option Secret} {options : ConnectionOptions} {client : Client} :
    build token options = .ok client ↔
      Address.parse (baseText options.baseAddress) = .ok client.base ∧
        token.all isLegalToken = true ∧ client.token = token ∧ client.timeout = options.timeout := by
  rw [build_eq]
  obtain ⟨base, token', timeout⟩ := client
  rcases Address.parse (baseText options.baseAddress) with e | base'
  · simp
  · by_cases ht : token.all isLegalToken = true
    · simp [ht, eq_comm]
    · simp [ht]

theorem isHeaderChar_eq_false_iff {c : Char} :
    isHeaderChar c = false ↔ c ≠ '\t' ∧ (c.toNat < 0x20 ∨ c.toNat = 0x7F) := by
  simp only [isHeaderChar, Bool.or_eq_false_iff, beq_eq_false_iff_ne, Bool.and_eq_false_iff,
    decide_eq_false_iff_not, Nat.not_le, bne_eq_false_iff_eq]

theorem isLegalToken_eq_false_iff {token : Secret} :
    isLegalToken token = false ↔ token.HasControl := by
  simp only [isLegalToken, List.all_eq_false, Bool.not_eq_true, isHeaderChar_eq_false_iff,
    Secret.HasControl]

theorem build_eq_refused_iff {token : Option Secret} {options : ConnectionOptions}
    {refusal : SetupRefusal} :
    build token options = .error (.refused refusal) ↔
      (∃ e, Address.parse (baseText options.baseAddress) = .error e) ∧
        refusal = unusableAddress := by
  rw [build_eq]
  rcases Address.parse (baseText options.baseAddress) with e | base
  · simp [eq_comm]
  · by_cases ht : token.all isLegalToken = true
    · simp [ht]
    · simp [ht]

/-- **Setting up crashes** just if the address of the base can be read and the credential may not be
sent. -/
theorem build_eq_crashed_iff {token : Option Secret} {options : ConnectionOptions} :
    build token options = .error .crashed ↔
      (∃ base, Address.parse (baseText options.baseAddress) = .ok base) ∧
        ∃ t, token = some t ∧ t.HasControl := by
  rw [build_eq]
  rcases Address.parse (baseText options.baseAddress) with e | base
  · simp
  · rcases token with _ | t
    · simp
    · rcases ht : isLegalToken t with _ | _
      · simp [ht, isLegalToken_eq_false_iff.1 ht]
      · have hc : ¬ t.HasControl := by rw [← isLegalToken_eq_false_iff, ht]; simp
        simp [ht, hc]

end Client

end CommitGate
