import CommitGate.Proofs.Report.Client
import CommitGate.Proofs.Report.Streams

/-!
# Runs whose settings are at fault

The first variable at fault decides a run (`Report.first_fault_decides`): it is reported as an error,
and the run neither sets up a client nor has to do with a server, whatever the variables behind it
hold. All that may stand in front of the report is what is wrong with the filter of log records, which
is told before anything else (`Report.first_fault_behind_warning`).
-/

namespace CommitGate

namespace Report

section Faults

variable {env : Environment} {front : List Variable} {v : Variable} {e : SettingsError}

/-- The commit is the first variable at fault just behind a repository that is given. -/
theorem firstFault_commit (repository : String)
    (hrepository : env.lookup.Holds .repository repository)
    (hcommit : env.lookup.given .commit = none) :
    env.lookup.FirstFault Variable.all [.repository] .commit (.unset .commit) := by
  refine .of_needed rfl (by decide) (fun w hw => ?_)
    (Lookup.given_eq_none_iff.1 hcommit)
  rw [List.mem_singleton.1 hw]
  exact fun hlacks => hlacks _ hrepository

theorem full_of_first (first : env.lookup.FirstFault Variable.all front v e) (network : Network) :
    full env network = ofError e.message [] := by
  have hanswer : env.lookup.askAll.answer = .error e :=
    Lookup.inTurn_askAll.answer_eq_error_iff.2 ⟨front, v, first⟩
  rw [Lookup.answer_askAll] at hanswer
  unfold full
  rcases hr : (CheckRequest.ask env.lookup).answer with e' | request
  · rw [hr] at hanswer
    cases hanswer
    rfl
  rcases ho : (ConnectionOptions.ask env.lookup).answer with e' | options
  · rw [hr, ho] at hanswer
    cases hanswer
    rfl
  · rw [hr, ho] at hanswer
    cases hanswer

/-- What is left of a run whose settings are at fault, which is nothing of the network. -/
theorem ofRun_of_first (first : env.lookup.FirstFault Variable.all front v e) (network : Network) :
    ofRun env network =
      { exitCode := 1
        output := ""
        errors := warnings env ++ ("Error: " ++ e.message ++ "\n")
        records := []
        requests := [] } := by
  have hfull := full_of_first first network
  have herrors : (full env network).errors = "Error: " ++ e.message ++ "\n" := by
    rw [hfull]
    simp only [ofError, causesText, String.append_empty]
  unfold ofRun
  simp only [hfull] at herrors ⊢
  rw [herrors]
  rfl

theorem not_employs_of_first (first : env.lookup.FirstFault Variable.all front v e)
    (request : CheckRequest) (client : Client) : ¬ Employs env request client := by
  rintro ⟨reads, -⟩
  exact reads.not_first first

end Faults

/-- **The first variable at fault decides.** What is checked is read from four variables in turn, each
asked for once, up to the first one that is unset or empty, which is the answer; if they all hold
something, they are taken as they are. How the server is reached is read from two more. Where one of
the two cannot be read, some variable is the first at fault in the order of all six, and the run is an
error report about it: nothing is shown of any record, no client is set up, nothing is sent, and the
servers have left what they had. The report stands behind what is wrong with the filter of log
records, if anything is. -/
theorem first_fault_decides :
    Variable.all.map Variable.name = ["REPO", "PR_HEAD_SHA", "GH_TOKEN", "REQUIRED_CONTEXT",
        "GITHUB_API_URL", "REQUEST_TIMEOUT_SECS"] ∧
      (∀ lookup : Lookup,
        (∀ front v behind, Variable.needed = front ++ v :: behind →
          (∀ w ∈ front, ¬ lookup.Lacks w) → lookup.Lacks v →
            CheckRequest.ask lookup = ⟨front ++ [v], .error (.unset v)⟩) ∧
        (∀ r : CheckRequest, lookup.Holds .repository r.repository → lookup.Holds .commit r.commit →
          lookup.Holds .credential r.credential.expose →
          lookup.Holds .requiredContext r.requiredContext →
            CheckRequest.ask lookup = ⟨Variable.needed, .ok r⟩) ∧
        (ConnectionOptions.ask lookup).names = [.baseAddress, .timeout]) ∧
      ∀ env : Environment,
        ((∃ front v e, env.lookup.FirstFault Variable.all front v e) ↔
          (∃ e, (CheckRequest.ask env.lookup).answer = .error e) ∨
            ∃ e, (ConnectionOptions.ask env.lookup).answer = .error e) ∧
        (warnings env = "" ↔ (Log.Filter.ofEnvironment env).2 = []) ∧
        ∀ front v e, env.lookup.FirstFault Variable.all front v e → ∀ network,
          ofRun env network =
              { exitCode := 1
                output := ""
                errors := warnings env ++ ("Error: " ++ e.message ++ "\n")
                records := []
                requests := [] } ∧
            (∀ request client, ¬ Employs env request client) ∧
            ∀ left, Leaves env network left ↔ left = network.replies := by
  refine ⟨rfl, fun lookup => ⟨?_, ?_, ?_⟩, fun env => ⟨?_, warnings_eq_empty_iff, ?_⟩⟩
  · intro front v behind horder hfront hlacks
    have hneeded : ∀ w ∈ front ++ [v], w ∈ Variable.needed := by
      intro w hw
      rw [horder, List.append_cons]
      exact List.mem_append_left behind hw
    exact CheckRequest.inTurn_ask.eq_of_first (.of_needed horder hneeded hfront hlacks)
  · intro r hrepository hcommit hcredential hcontext
    have hanswer : (CheckRequest.ask lookup).answer = .ok r :=
      CheckRequest.answer_ask_eq_ok_iff.2 ⟨hrepository, hcommit, hcredential, hcontext⟩
    exact CheckRequest.inTurn_ask.eq_of_ok hanswer
  · exact ConnectionOptions.names_ask lookup
  · exact Lookup.exists_first_iff
  · intro front v e first network
    have hidle := not_employs_of_first first
    exact ⟨ofRun_of_first first network, hidle, fun left => leaves_iff_of_idle hidle⟩

/-- An empty commit, with a credential that may not be sent, an address that cannot be read and a
timeout of no seconds behind it. -/
theorem first_fault_decides_at_commit :
    let env : Environment := fun name =>
      ([("REPO", "octo/widgets"), ("PR_HEAD_SHA", ""), ("GH_TOKEN", "t0ken\n"),
        ("GITHUB_API_URL", "not a uri"), ("REQUEST_TIMEOUT_SECS", "0"),
        ("RUST_LOG", "debug")].lookup name).map fun value => Text.toBytes value.toList
    let network : Network := { listens := fun _ => true, replies := [[0x48]] }
    env.lookup.FirstFault Variable.all [.repository] .commit (.unset .commit) ∧
      (ofRun env network).errors =
        warnings env ++ ("Error: " ++ "required environment variable PR_HEAD_SHA is not set" ++
          "\n") ∧
      Leaves env network [[0x48]] := by
  intro env network
  have first : env.lookup.FirstFault Variable.all [.repository] .commit (.unset .commit) :=
    firstFault_commit "octo/widgets" ⟨by decide +kernel, by decide⟩ (by decide +kernel)
  obtain ⟨-, -, hruns⟩ := first_fault_decides
  obtain ⟨hreport, -, hleaves⟩ := (hruns env).2.2 _ _ _ first network
  exact ⟨first, congrArg Report.errors hreport, (hleaves _).2 rfl⟩

/-- **A filter of log records that is malformed**: the report of the first fault is not all that
stands on standard error. -/
theorem first_fault_behind_warning :
    let env : Environment := fun name =>
      ([("REPO", "octo/widgets"), ("RUST_LOG", "a=b=c")].lookup name).map
        fun value => Text.toBytes value.toList
    let network : Network := { listens := fun _ => true, replies := [] }
    env.lookup.FirstFault Variable.all [.repository] .commit (.unset .commit) ∧
      (ofRun env network).errors =
        "warning: invalid logging spec 'a=b=c', ignoring it\n" ++
          "Error: required environment variable PR_HEAD_SHA is not set\n" ∧
      (ofRun env network).errors ≠ "Error: " ++ (SettingsError.unset .commit).message ++ "\n" := by
  intro env network
  have first : env.lookup.FirstFault Variable.all [.repository] .commit (.unset .commit) :=
    firstFault_commit "octo/widgets" ⟨by decide +kernel, by decide⟩ (by decide +kernel)
  exact ⟨first, by decide +kernel, by decide +kernel⟩

end Report

end CommitGate
