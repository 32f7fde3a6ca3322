import CommitGate.CommandLine
import CommitGate.Proofs.Call
import CommitGate.Proofs.Client
import CommitGate.Proofs.Settings

/-!
# What a run tells of the credential

Two runs whose environments differ in the credential alone leave the same behind, but for the value
of one header of their requests (`Report.redacted_ofRun_eq`). The credential decides nothing: as long
as it may be sent, a client reaches the same servers with it, is answered the same, and is told of in
the same words.

Both sides are compared with the value of that header taken out: `redacted`.
-/

namespace CommitGate

open Http (Request Response Header)

/-! ### Taking the credential out -/

/-- The header, without its value if that is a credential. -/
def Http.Header.redacted (h : Header) : Header :=
  if h.name = "authorization" then { h with value := "" } else h

/-- The request without the credential. -/
def Http.Request.redacted (r : Request) : Request :=
  { r with headers := r.headers.map Header.redacted }

/-- The call without the credential. -/
def Call.redacted {α : Type} (c : Call α) : Call α :=
  { c with requests := c.requests.map Request.redacted }

/-- The report without the credential. -/
def Report.redacted (r : Report) : Report :=
  { r with requests := r.requests.map Request.redacted }

/-! ### Headers that differ in the credential -/

theorem Http.Header.name_redacted (h : Header) : h.redacted.name = h.name := by
  unfold Header.redacted
  split
  · rfl
  · rfl

/-- Dropping headers has nothing to do with their values. -/
theorem Http.redacted_without (names : List String) (headers : List Header) :
    (Http.without names headers).map Header.redacted =
      Http.without names (headers.map Header.redacted) := by
  unfold Http.without
  rw [List.filter_map]
  refine congrArg _ (List.filter_congr fun h _ => ?_)
  rw [Function.comp_apply, h.name_redacted]

section Saved

variable {saved saved' : List Header}

theorem Http.redacted_savedAfter (same : saved.map Header.redacted = saved'.map Header.redacted)
    (seesOther : Bool) :
    (Http.savedAfter seesOther saved).map Header.redacted =
      (Http.savedAfter seesOther saved').map Header.redacted := by
  cases seesOther
  · exact same
  · exact (Http.redacted_without ..).trans ((congrArg _ same).trans (Http.redacted_without ..).symm)

theorem Http.redacted_sentFrom (same : saved.map Header.redacted = saved'.map Header.redacted)
    (carriesToken : Bool) :
    (Http.sentFrom carriesToken saved).map Header.redacted =
      (Http.sentFrom carriesToken saved').map Header.redacted := by
  cases carriesToken
  · exact (Http.redacted_without ..).trans ((congrArg _ same).trans (Http.redacted_without ..).symm)
  · exact same

/-- **Requests along any visits are the same but for the credential** if the saved headers are. -/
theorem redacted_requestsAlong (same : saved.map Header.redacted = saved'.map Header.redacted)
    (carriesToken : Bool) (visits : List Visit) :
    (requestsAlong saved carriesToken visits).map Request.redacted =
      (requestsAlong saved' carriesToken visits).map Request.redacted := by
  induction visits generalizing saved saved' carriesToken with
  | nil => rfl
  | cons visit visits ih =>
    have hrest := ih (Http.redacted_savedAfter same visit.seesOther)
    simp only [requestsAlong, List.map_cons, hrest, Request.redacted,
      Http.redacted_sentFrom same carriesToken]

end Saved

/-! ### Clients that differ in the credential -/

namespace Client

variable {client : Client} {s : Secret}

/-- The headers are the same but for the credential. -/
theorem redacted_headers (hs : client.token = some s) (t : Secret) :
    client.headers.map Header.redacted =
      ({ client with token := some t }.headers).map Header.redacted := by
  simp [headers, hs, Header.redacted]

theorem redacted_fetch (hs : client.token = some s) (t : Secret) (network : Network)
    (route : String) :
    (client.fetch network route).redacted =
      ({ client with token := some t }.fetch network route).redacted := by
  rcases hp : Address.parse route.toList with e | address
  · rw [fetch_eq_of_bad hp, fetch_eq_of_bad hp]
  · obtain ⟨visits, last, left, hm⟩ := client.exists_meets network address.target
    have hm' : Meets { client with token := some t } network address.target visits last left :=
      hm.transfer rfl rfl rfl fun _ along => along
    have hserved : ({ client with token := some t }.serve network address.target).isValue =
        (client.serve network address.target).isValue := isValue_serve_congr rfl rfl
    rw [fetch_eq hp hm, fetch_eq hp hm', hserved]
    simp only [Call.redacted, redacted_requestsAlong (redacted_headers hs t)]

/-- **A call is the same with another credential**, but for the header that carries it. -/
theorem redacted_check (hs : client.token = some s) (t : Secret) (network : Network)
    (repository commit required : String) :
    (client.check network repository commit required).redacted =
      ({ client with token := some t }.check network repository commit required).redacted := by
  have hf := redacted_fetch hs t network (statusRoute repository commit)
  rw [← combinedStatus_eq_fetch, ← combinedStatus_eq_fetch] at hf
  unfold check
  generalize client.combinedStatus network repository commit = call at hf ⊢
  generalize Client.combinedStatus { client with token := some t } network repository commit = call'
    at hf ⊢
  obtain ⟨result, records, requests, network₁⟩ := call
  obtain ⟨result', records', requests', network₂⟩ := call'
  simp only [Call.redacted, Call.mk.injEq] at hf
  obtain ⟨rfl, rfl, hr, rfl⟩ := hf
  rcases result with e | combined
  · simp only [Call.redacted, hr]
  · simp only [Call.redacted, hr]

end Client

/-! ### Environments that differ in the credential -/

/-- **Two environments that differ in the credential alone**: every other variable is the same, and
the credential is set to `s` in one and to `t` in the other, both of which may be sent. -/
structure DifferInCredential (env env' : Environment) (s t : String) : Prop where
  same : ∀ name, name ≠ Variable.credential.name → env name = env' name
  holds : env.lookup.Holds .credential s
  holds' : env'.lookup.Holds .credential t
  legal : Client.isLegalToken ⟨s⟩ = true
  legal' : Client.isLegalToken ⟨t⟩ = true

namespace DifferInCredential

variable {env env' : Environment} {s t : String}

theorem text?_eq (h : DifferInCredential env env' s t) {name : String}
    (hn : name ≠ Variable.credential.name) : env.text? name = env'.text? name := by
  rw [Environment.text?, Environment.text?, h.same name hn]

theorem given_eq (h : DifferInCredential env env' s t) {v : Variable} (hv : v ≠ .credential) :
    env.lookup.given v = env'.lookup.given v := by
  have hn : v.name ≠ Variable.credential.name := by
    cases v <;> first | decide | exact absurd rfl hv
  rw [Lookup.given, Lookup.given, Environment.lookup, Environment.lookup, h.text?_eq hn]

theorem needed_eq (h : DifferInCredential env env' s t) {v : Variable} (hv : v ≠ .credential) :
    env.lookup.needed v = env'.lookup.needed v := by
  rw [Lookup.needed, Lookup.needed, h.given_eq hv]

/-- The one request is the other with another credential, or both cannot be read for one reason. -/
theorem answer_request_eq (h : DifferInCredential env env' s t) :
    (CheckRequest.ask env'.lookup).answer =
      (CheckRequest.ask env.lookup).answer.map fun r => { r with credential := ⟨t⟩ } := by
  rw [CheckRequest.answer_ask, CheckRequest.answer_ask,
    Lookup.needed_eq_ok_iff.2 h.holds, Lookup.needed_eq_ok_iff.2 h.holds',
    h.needed_eq (v := .repository) (by decide), h.needed_eq (v := .commit) (by decide),
    h.needed_eq (v := .requiredContext) (by decide)]
  rcases env'.lookup.needed .repository with e | repository
  · rfl
  rcases env'.lookup.needed .commit with e | commit
  · rfl
  rcases env'.lookup.needed .requiredContext with e | requiredContext
  · rfl
  · rfl

theorem answer_options_eq (h : DifferInCredential env env' s t) :
    (ConnectionOptions.ask env'.lookup).answer = (ConnectionOptions.ask env.lookup).answer := by
  rw [ConnectionOptions.answer_ask, ConnectionOptions.answer_ask,
    h.given_eq (v := .baseAddress) (by decide), h.given_eq (v := .timeout) (by decide)]

theorem filter_eq (h : DifferInCredential env env' s t) :
    Log.Filter.ofEnvironment env = Log.Filter.ofEnvironment env' := by
  rw [Log.Filter.ofEnvironment, Log.Filter.ofEnvironment,
    h.text?_eq (show Log.variable ≠ Variable.credential.name by decide)]

end DifferInCredential

namespace Report

variable {env env' : Environment} {s t : String}

/-- The report with all log records tells nothing of the credential. -/
theorem redacted_full_eq (h : DifferInCredential env env' s t) (network : Network) :
    (full env network).redacted = (full env' network).redacted := by
  unfold full
  rw [h.answer_request_eq, h.answer_options_eq]
  rcases hr : (CheckRequest.ask env.lookup).answer with e | request
  · rfl
  rcases (ConnectionOptions.ask env.lookup).answer with e | options
  · rfl
  have hc : request.credential = ⟨s⟩ := by
    have h1 := (CheckRequest.answer_ask_eq_ok_iff.1 hr).2.2.1.1
    have h2 := h.holds.1
    rw [h1, Option.some.injEq] at h2
    exact congrArg Secret.mk h2
  obtain ⟨repository, commit, credential, requiredContext⟩ := request
  cases hc
  simp only [Except.map, Client.build_eq]
  rcases Address.parse (Client.baseText options.baseAddress) with e | base
  · rfl
  have hcheck := @Client.redacted_check { base, token := some ⟨s⟩, timeout := options.timeout } ⟨s⟩
    rfl ⟨t⟩ network repository commit requiredContext
  simp only [Option.all_some, h.legal, h.legal', if_true]
  generalize Client.check _ network repository commit requiredContext = call at hcheck ⊢
  generalize Client.check _ network repository commit requiredContext = call' at hcheck ⊢
  obtain ⟨result, records, requests, network₁⟩ := call
  obtain ⟨result', records', requests', network₂⟩ := call'
  simp only [Call.redacted, Call.mk.injEq] at hcheck
  obtain ⟨rfl, rfl, hreq, -⟩ := hcheck
  simp only [redacted, hreq]
  rfl

/-- **A run tells nothing of the credential.** With another one that may be sent, the exit code, both
streams and the log records are the same, shown or not, and so are the requests, but for the value of
the header that carries it. What is shown of the settings is the same for any credential. -/
theorem redacted_ofRun_eq (h : DifferInCredential env env' s t) (network : Network) :
    (ofRun env network).redacted = (ofRun env' network).redacted ∧
      (full env network).redacted = (full env' network).redacted ∧
      ∀ (r : CheckRequest) (token : Secret), { r with credential := token }.describe = r.describe := by
  have hfull := redacted_full_eq h network
  refine ⟨?_, hfull, fun r token => rfl⟩
  simp only [redacted, mk.injEq] at hfull
  obtain ⟨hcode, houtput, herrors, hrecords, hrequests⟩ := hfull
  simp only [ofRun, redacted, h.filter_eq, hcode, houtput, herrors, hrecords, hrequests]

/-- Two credentials, in front of a server that sends the client on once and then reports success. -/
theorem redacted_ofRun_eq_of_pass :
    let rest : Environment := fun name =>
      ([("REPO", "octo/widgets"), ("PR_HEAD_SHA", "abc123"), ("REQUIRED_CONTEXT", "build"),
        ("GITHUB_API_URL", "http://stub"), ("RUST_LOG", "debug")].lookup name).map
          fun value => Text.toBytes value.toList
    let env (token : String) : Environment := fun name =>
      if name = Variable.credential.name then some (Text.toBytes token.toList) else rest name
    let replies : List Http.Reply :=
      [{ status := "302 Found", location := some "http://other/a", body := [] },
        { body := Text.toBytes
            "\x7b\"statuses\":[\x7b\"context\":\"build\",\"state\":\"success\"\x7d]\x7d".toList }]
    let network : Network := { listens := fun _ => true, replies := replies.map Http.Reply.toBytes }
    DifferInCredential (env "one") (env "other") "one" "other" ∧
      (ofRun (env "one") network).exitCode = 0 ∧
      (ofRun (env "one") network).redacted = (ofRun (env "other") network).redacted := by
  intro rest env replies network
  have hd : DifferInCredential (env "one") (env "other") "one" "other" := by
    refine ⟨fun name hn => ?_, ?_, ?_, ?_, ?_⟩
    · simp only [env, if_neg hn]
    · exact ⟨by decide +kernel, by decide⟩
    · exact ⟨by decide +kernel, by decide⟩
    · decide
    · decide
  exact ⟨hd, by decide +kernel, (redacted_ofRun_eq hd network).1⟩

end Report

end CommitGate
