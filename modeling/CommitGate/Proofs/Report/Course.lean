import CommitGate.CommandLine
import CommitGate.Proofs.Call
import CommitGate.Proofs.Client
import CommitGate.Proofs.Settings

/-!
# The course of a run

A run takes one of three courses (`Report.crashes_or_fails_or_fetches`), and each of them settles
what is left of it, the exit code and the two streams:

* `Report.Crashes` — setting up the client crashes, and nothing is told;
* `Report.Fails` — the settings cannot be read, the client is refused or nothing is fetched, and that
  is reported as an error;
* `Report.Fetches` — a combined status is fetched, and the gate decides about it.

Exit code 101 tells a crash from the other two (`Report.exitCode_ofRun_eq_iff_crashes`). In front of
its errors a run tells what is wrong with the filter of log records (`Report.warnings`).
-/

namespace CommitGate

open Status (Combined)

/-- The environment says what is checked and how the server is reached. -/
structure Environment.Reads (env : Environment) (request : CheckRequest)
    (options : ConnectionOptions) : Prop where
  checked : (CheckRequest.ask env.lookup).answer = .ok request
  reached : (ConnectionOptions.ask env.lookup).answer = .ok options

namespace Report

/-! ### What is left of a run -/

/-- The exit code and the two streams, standard error without log records. -/
def streams (r : Report) : UInt8 × String × String := (r.exitCode, r.output, r.errors)

/-- The lines that tell what is wrong with the filter of log records, if anything is. -/
def warnings (env : Environment) : String :=
  String.join ((Log.Filter.ofEnvironment env).2.map fun p => p.message ++ "\n")

theorem errors_ofRun (env : Environment) (network : Network) :
    (ofRun env network).errors = warnings env ++ (full env network).errors := rfl

theorem streams_ofRun_eq {env : Environment} {network : Network} {code : UInt8}
    {output told : String} (h : (full env network).streams = (code, output, told)) :
    (ofRun env network).streams = (code, output, warnings env ++ told) := by
  simp only [streams, Prod.mk.injEq] at h ⊢
  obtain ⟨hcode, houtput, htold⟩ := h
  exact ⟨hcode, houtput, by rw [errors_ofRun, htold]⟩

theorem streams_ofError (message : String) (causes : List String) :
    (ofError message causes).streams =
      (1, "", "Error: " ++ message ++ causesText causes ++ "\n") := rfl

theorem streams_ofOutcome (o : Outcome) :
    (ofOutcome o).streams =
      match o with
      | .passed c => (0, c ++ " is success" ++ "\n", "")
      | .missing c => (1, "", "Missing required local status: " ++ c ++ "\n")
      | .notSuccessful c state =>
        (1, "", "Local status " ++ c ++ " is '" ++ state.toText ++ "', expected 'success'" ++
          "\n") := by
  cases o <;> rfl

/-! ### The courses -/

/-- **The run crashes** when it sets up the client. -/
def Crashes (env : Environment) : Prop :=
  ∃ request options, env.Reads request options ∧
    Client.build (some request.credential) options = .error .crashed

/-- **The run fails** before there is anything to decide: what it says of that, and the causes. -/
inductive Fails (env : Environment) (network : Network) :
    (message : String) → (causes : List String) → Prop
  /-- It is not said what is checked. -/
  | unasked {e : SettingsError} (unread : (CheckRequest.ask env.lookup).answer = .error e) :
      Fails env network e.message []
  /-- It cannot be read how the server is reached. -/
  | unreached {request : CheckRequest} {e : SettingsError}
      (checked : (CheckRequest.ask env.lookup).answer = .ok request)
      (unread : (ConnectionOptions.ask env.lookup).answer = .error e) :
      Fails env network e.message []
  /-- The client is refused. -/
  | refused {request : CheckRequest} {options : ConnectionOptions} {refusal : SetupRefusal}
      (reads : env.Reads request options)
      (unbuilt : Client.build (some request.credential) options = .error (.refused refusal)) :
      Fails env network "Failed to create GitHub client" [refusal.message]
  /-- The call has no result. -/
  | unfetched {request : CheckRequest} {options : ConnectionOptions} {client : Client}
      {e : CallError} (reads : env.Reads request options)
      (built : Client.build (some request.credential) options = .ok client)
      (missed : (client.combinedStatus network request.repository request.commit).result =
        .error e) :
      Fails env network "Failed to fetch combined commit status" (e.causes network.account)

/-- **The run fetches a combined status** for what it is asked to check. -/
inductive Fetches (env : Environment) (network : Network) (request : CheckRequest)
    (combined : Combined) : Prop
  | intro {options : ConnectionOptions} {client : Client} (reads : env.Reads request options)
      (built : Client.build (some request.credential) options = .ok client)
      (fetched : (client.combinedStatus network request.repository request.commit).result =
        .ok combined)

section Courses

variable {env : Environment} {network : Network}

/-- There is no fourth course. -/
theorem crashes_or_fails_or_fetches (env : Environment) (network : Network) :
    Crashes env ∨ (∃ message causes, Fails env network message causes) ∨
      ∃ request combined, Fetches env network request combined := by
  rcases hr : (CheckRequest.ask env.lookup).answer with e | request
  · exact .inr (.inl ⟨_, _, .unasked hr⟩)
  rcases ho : (ConnectionOptions.ask env.lookup).answer with e | options
  · exact .inr (.inl ⟨_, _, .unreached hr ho⟩)
  rcases hb : Client.build (some request.credential) options with (refusal | _) | client
  · exact .inr (.inl ⟨_, _, .refused ⟨hr, ho⟩ hb⟩)
  · exact .inl ⟨request, options, ⟨hr, ho⟩, hb⟩
  rcases hc : (client.combinedStatus network request.repository request.commit).result with
    e | combined
  · exact .inr (.inl ⟨_, _, .unfetched ⟨hr, ho⟩ hb hc⟩)
  · exact .inr (.inr ⟨request, combined, ⟨hr, ho⟩, hb, hc⟩)

/-- A crash leaves nothing but its exit code, and nothing was sent. -/
theorem full_of_crashes (h : Crashes env) (network : Network) :
    (full env network).streams = (101, "", "") ∧ (full env network).requests = [] := by
  obtain ⟨request, options, hreads, hbuild⟩ := h
  unfold full
  simp [hreads.checked, hreads.reached, hbuild, crash, streams]

/-- A failure is reported as an error. -/
theorem streams_full_of_fails {message : String} {causes : List String}
    (h : Fails env network message causes) :
    (full env network).streams = (ofError message causes).streams := by
  unfold full
  cases h with
  | unasked unread => simp only [unread]
  | unreached checked unread => simp only [checked, unread]
  | refused reads unbuilt =>
    simp only [reads.checked, reads.reached, unbuilt]
    rfl
  | unfetched reads built missed =>
    simp only [reads.checked, reads.reached, built, Client.check_result, missed, Except.map]
    rfl

/-- What is fetched is decided about, and the outcome is reported. -/
theorem streams_full_of_fetches {request : CheckRequest} {combined : Combined}
    (h : Fetches env network request combined) :
    (full env network).streams = (ofOutcome (evaluate combined request.requiredContext)).streams := by
  obtain ⟨reads, built, fetched⟩ := h
  unfold full
  simp only [reads.checked, reads.reached, built, Client.check_result, fetched, Except.map]
  rfl

/-- A run whose setup crashes tells nothing and sends nothing. -/
theorem ofRun_of_crashes (h : Crashes env) (network : Network) :
    (ofRun env network).streams = (101, "", warnings env) ∧ (ofRun env network).requests = [] := by
  obtain ⟨hstreams, hrequests⟩ := full_of_crashes h network
  refine ⟨?_, hrequests⟩
  rw [streams_ofRun_eq hstreams, String.append_empty]

/-- **Exit code 101 tells a crash** from all other courses. -/
theorem exitCode_ofRun_eq_iff_crashes (network : Network) :
    (ofRun env network).exitCode = 101 ↔ Crashes env := by
  constructor
  · intro hcode
    rcases crashes_or_fails_or_fetches env network with hcrash | ⟨message, causes, hfails⟩ |
      ⟨request, combined, hfetches⟩
    · exact hcrash
    -- the other two courses end with one, or with the code of a decision
    · have hone : (ofRun env network).exitCode = 1 :=
        congrArg Prod.fst (streams_full_of_fails hfails)
      rw [hone] at hcode
      exact absurd hcode (by decide)
    · have hdecided : (ofRun env network).exitCode =
          (ofOutcome (evaluate combined request.requiredContext)).streams.1 :=
        congrArg Prod.fst (streams_full_of_fetches hfetches)
      rw [hdecided, streams_ofOutcome] at hcode
      split at hcode
      · exact absurd hcode (show (0 : UInt8) ≠ 101 by decide)
      · exact absurd hcode (show (1 : UInt8) ≠ 101 by decide)
      · exact absurd hcode (show (1 : UInt8) ≠ 101 by decide)
  · intro h
    exact congrArg Prod.fst (ofRun_of_crashes h network).1

end Courses

end Report

end CommitGate
