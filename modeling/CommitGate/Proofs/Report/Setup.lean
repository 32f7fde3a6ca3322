import CommitGate.Proofs.Report.Course

/-!
# Setting up, and what a run makes of it

Setting up settles, with a client or with a refusal, unless it crashes: over a credential that may not
be sent, next to an address that can be read (`Client.settles_iff`). A run whose client is refused
reports that as an error, and one whose setup crashes has exit code 101 and tells nothing; neither
sends anything (`Report.setup_settles_iff`).
-/

namespace CommitGate

namespace Client

/-- **Setting up settles**: there is a client, or a refusal that says why there is none. -/
def Settles (token : Option Secret) (options : ConnectionOptions) : Prop :=
  (∃ client, build token options = .ok client) ∨
    ∃ refusal, build token options = .error (.refused refusal)

theorem settles_iff_ne_crashed {token : Option Secret} {options : ConnectionOptions} :
    Settles token options ↔ build token options ≠ .error .crashed := by
  unfold Settles
  rcases build token options with (refusal | _) | client <;> simp

/-- **Setting up settles** just if the address is refused anyway, or the credential may be sent. -/
theorem settles_iff {token : Option Secret} {options : ConnectionOptions} :
    Settles token options ↔
      (∃ e, Address.parse (baseText options.baseAddress) = .error e) ∨
        ∀ t, token = some t → ¬ t.HasControl := by
  rw [settles_iff_ne_crashed, Ne, build_eq_crashed_iff, Classical.not_and_iff_not_or_not]
  have hread : (¬ ∃ base, Address.parse (baseText options.baseAddress) = .ok base) ↔
      ∃ e, Address.parse (baseText options.baseAddress) = .error e := by
    rcases Address.parse (baseText options.baseAddress) with e | base <;> simp
  rw [hread]
  simp only [not_exists, not_and]

/-- With the usual base, all hangs on the credential. -/
theorem settles_default_iff {token : Secret} : Settles (some token) {} ↔ ¬ token.HasControl := by
  have hbase : Address.parse (baseText none) =
      .ok { scheme := some .https, authority := "api.github.com".toList
            target := { path := [] } } := rfl
  rw [settles_iff, hbase]
  simp

end Client

namespace Report

section Setup

variable {env : Environment} {network : Network} {request : CheckRequest}
  {options : ConnectionOptions}

/-- The error that a refusal is reported as. -/
theorem errors_of_refusal (refusal : SetupRefusal) :
    (ofError "Failed to create GitHub client" [refusal.message]).errors =
      "Error: Failed to create GitHub client\n\nCaused by:" ++ causeText "    " refusal.message ++
        "\n" := by
  have hline : "Error: " ++ "Failed to create GitHub client" ++ "\n\nCaused by:" =
      "Error: Failed to create GitHub client\n\nCaused by:" := by decide
  simp only [ofError, causesText]
  rw [← hline]
  simp only [String.append_assoc]

/-- A run whose client is refused reports it and sends nothing. -/
theorem ofRun_of_refused {refusal : SetupRefusal} (reads : env.Reads request options)
    (unbuilt : Client.build (some request.credential) options = .error (.refused refusal)) :
    (ofRun env network).streams = (1, "", warnings env ++
        ("Error: Failed to create GitHub client\n\nCaused by:" ++
          causeText "    " refusal.message ++ "\n")) ∧
      (ofRun env network).requests = [] := by
  constructor
  · have hstreams : (full env network).streams = _ :=
      streams_full_of_fails (.refused reads unbuilt)
    rw [← errors_of_refusal]
    exact streams_ofRun_eq hstreams
  · show (full env network).requests = []
    unfold full
    simp only [reads.checked, reads.reached, unbuilt]
    rfl

/-- A run that can be read crashes just if its setup does not settle. -/
theorem crashes_iff_of_reads (reads : env.Reads request options) :
    Crashes env ↔ ¬ Client.Settles (some request.credential) options := by
  rw [Client.settles_iff_ne_crashed, Classical.not_not]
  constructor
  · rintro ⟨request', options', reads', hbuild⟩
    have hrequest := reads.checked.symm.trans reads'.checked
    have hoptions := reads.reached.symm.trans reads'.reached
    cases hrequest
    cases hoptions
    exact hbuild
  · intro hbuild
    exact ⟨request, options, reads, hbuild⟩

end Setup

/-- **Setting up settles** just if the address cannot be read, which is looked at first, or the
credential may be sent; with the usual base, just if the credential may be sent. Of a run that can
be read, exit code 101 says that its setup does not settle. A refusal is reported as an error; a
crash is not; neither sends anything. -/
theorem setup_settles_iff (token : Option Secret) (options : ConnectionOptions) :
    (Client.Settles token options ↔
        (∃ e, Address.parse (Client.baseText options.baseAddress) = .error e) ∨
          ∀ t, token = some t → ¬ t.HasControl) ∧
      (∀ t, Client.Settles (some t) {} ↔ ¬ t.HasControl) ∧
      ∀ env network request, env.Reads request options → token = some request.credential →
        ((ofRun env network).exitCode = 101 ↔ ¬ Client.Settles token options) ∧
          (¬ Client.Settles token options →
            (ofRun env network).streams = (101, "", warnings env) ∧
              (ofRun env network).requests = []) ∧
          ∀ refusal, Client.build token options = .error (.refused refusal) →
            (ofRun env network).streams = (1, "", warnings env ++
                ("Error: Failed to create GitHub client\n\nCaused by:" ++
                  causeText "    " refusal.message ++ "\n")) ∧
              (ofRun env network).requests = [] := by
  refine ⟨Client.settles_iff, fun t => Client.settles_default_iff, ?_⟩
  rintro env network request reads rfl
  have hcrashes := crashes_iff_of_reads reads
  refine ⟨?_, fun hcrash => ?_, fun refusal unbuilt => ?_⟩
  · rw [exitCode_ofRun_eq_iff_crashes, hcrashes]
  · exact ofRun_of_crashes (hcrashes.2 hcrash) network
  · exact ofRun_of_refused reads unbuilt

/-- A credential that ends in a line feed, and an address with blanks: the address is looked at first,
so this is a refusal. -/
theorem setup_settles_of_bad_address :
    let env : Environment := fun name =>
      ([("REPO", "octo/widgets"), ("PR_HEAD_SHA", "abc123"), ("GH_TOKEN", "t0ken\n"),
        ("REQUIRED_CONTEXT", "ci/build"), ("GITHUB_API_URL", "not a uri")].lookup name).map
          fun value => Text.toBytes value.toList
    let request : CheckRequest := ⟨"octo/widgets", "abc123", ⟨"t0ken\n"⟩, "ci/build"⟩
    let options : ConnectionOptions := { baseAddress := some "not a uri" }
    env.Reads request options ∧ Client.Settles (some request.credential) options ∧
      (ofRun env { listens := fun _ => true, replies := [] }).exitCode = 1 := by
  intro env request options
  have reads : env.Reads request options := by
    refine ⟨CheckRequest.answer_ask_eq_ok_iff.2 ⟨⟨?_, ?_⟩, ⟨?_, ?_⟩, ⟨?_, ?_⟩, ⟨?_, ?_⟩⟩,
      ConnectionOptions.answer_ask_eq_ok_iff.2 ⟨?_, .inl ⟨?_, rfl⟩⟩⟩
    · decide +kernel
    · decide
    · decide +kernel
    · decide
    · decide +kernel
    · decide
    · decide +kernel
    · decide
    · decide +kernel
    · exact Lookup.given_eq_none_iff.1 (by decide +kernel)
  have unbuilt : Client.build (some request.credential) options =
      .error (.refused Client.unusableAddress) := rfl
  obtain ⟨-, -, hruns⟩ := setup_settles_iff (some request.credential) options
  obtain ⟨-, -, hrefused⟩ := hruns env { listens := fun _ => true, replies := [] } request reads rfl
  exact ⟨reads, .inr ⟨_, unbuilt⟩, congrArg Prod.fst (hrefused _ unbuilt).1⟩

/-- **A credential that ends in a line feed**, and nothing said of the address: setting up does not
settle, and the run crashes instead of reporting a refusal. -/
theorem setup_crashes_on_line_feed :
    let env : Environment := fun name =>
      ([("REPO", "octo/widgets"), ("PR_HEAD_SHA", "abc123"), ("GH_TOKEN", "t0ken\n"),
        ("REQUIRED_CONTEXT", "ci/build")].lookup name).map fun value => Text.toBytes value.toList
    ¬ Client.Settles (some ⟨"t0ken\n"⟩) {} ∧
      ¬ (ofRun env { listens := fun _ => true, replies := [] }).exitCode = 1 := by
  constructor
  · exact fun h => Client.settles_iff_ne_crashed.1 h rfl
  · decide +kernel

end Report

end CommitGate
