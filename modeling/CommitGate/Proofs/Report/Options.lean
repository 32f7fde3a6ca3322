import CommitGate.Proofs.Report.Faults
import CommitGate.Proofs.Text.Utf8

/-!
# Options that are given

What becomes of an optional variable that is set to some bytes (`Environment.Gives`). If they are a
text, the run uses that very text (`Report.Uses`) or stops (`Report.Stops`). If they are none, the
variable counts as unset, and the run goes on without it, as it does with the variable taken out of
its environment (`Report.given_option_used_iff`).
-/

namespace CommitGate

/-- The bytes are a text. -/
def IsText (value : Bytes) : Prop := ∃ text : String, Text.toBytes text.toList = value

theorem isText_iff {value : Bytes} : IsText value ↔ (Text.ofBytes? value).isSome = true := by
  unfold IsText Text.ofBytes?
  constructor
  · rintro ⟨text, rfl⟩
    simp [Text.ofBytes_toBytes]
  · intro h
    split at h
    · next hrest =>
      have hbytes := Text.eq_toBytes_append_ofBytes value
      rw [hrest, List.append_nil] at hbytes
      exact ⟨String.ofList (Text.ofBytes value).1, by rw [String.toList_ofList, ← hbytes]⟩
    · cases h

/-! ### Bytes in the environment -/

namespace Environment

variable {env : Environment} {v w : Variable} {value : Bytes} {text : String}

/-- **The variable is set to these bytes**, of which there are some. -/
def Gives (env : Environment) (v : Variable) (value : Bytes) : Prop :=
  env v.name = some value ∧ value ≠ []

/-- The environment without a variable. -/
def without (env : Environment) (v : Variable) : Environment := fun name =>
  if name = v.name then none else env name

theorem text?_eq_some_iff {name : String} :
    env.text? name = some text ↔ env name = some (Text.toBytes text.toList) := by
  unfold text? Text.ofBytes?
  rcases env name with _ | value
  · simp
  simp only [Option.bind_some, Option.map_eq_some_iff, Option.some.injEq]
  constructor
  · rintro ⟨chars, hchars, rfl⟩
    split at hchars
    · next hrest =>
      cases hchars
      have hbytes := Text.eq_toBytes_append_ofBytes value
      rwa [hrest, List.append_nil, ← String.toList_ofList (l := (Text.ofBytes value).1)] at hbytes
    · cases hchars
  · rintro rfl
    exact ⟨text.toList, by simp [Text.ofBytes_toBytes], String.ofList_toList⟩

theorem toBytes_eq_nil_iff : Text.toBytes text.toList = [] ↔ text = "" := by
  rw [← Text.toBytes_nil, Text.toBytes_inj, String.toList_eq_nil_iff]

/-- A variable holds a text just if it is set to the bytes of the text. -/
theorem holds_iff_gives : env.lookup.Holds v text ↔ env.Gives v (Text.toBytes text.toList) := by
  have hset : env.lookup v = some text ↔ env v.name = some (Text.toBytes text.toList) :=
    text?_eq_some_iff
  unfold Lookup.Holds Gives
  rw [hset, Ne, Ne, toBytes_eq_nil_iff]

theorem Gives.lookup_eq_none (h : env.Gives v value) (hvalue : ¬ IsText value) :
    env.lookup v = none := by
  rcases hlookup : env.lookup v with _ | text
  · rfl
  have hset : env v.name = some (Text.toBytes text.toList) := text?_eq_some_iff.1 hlookup
  have hbytes := h.1.symm.trans hset
  exact absurd ⟨text, (Option.some.inj hbytes).symm⟩ hvalue

theorem name_inj (h : v.name = w.name) : v = w := by
  cases v <;> cases w <;> first | rfl | exact absurd h (by decide)

/-- Without a variable that is no text, the variables hold what they held. -/
theorem lookup_without (h : env.lookup v = none) : (env.without v).lookup = env.lookup := by
  funext w
  unfold lookup text? without
  by_cases hw : w.name = v.name
  · cases name_inj hw
    unfold lookup text? at h
    rw [if_pos rfl, h]
    rfl
  · rw [if_neg hw]

end Environment

namespace Report

/-! ### What a run reads of its environment -/

/-- A run reads the variables of the settings and that of the filter, and those as texts. -/
theorem ofRun_congr {env env' : Environment} (hlookup : env.lookup = env'.lookup)
    (hfilter : env.text? Log.variable = env'.text? Log.variable) (network : Network) :
    ofRun env network = ofRun env' network := by
  have hfull : full env network = full env' network := by
    unfold full
    rw [hlookup]
  unfold ofRun Log.Filter.ofEnvironment
  rw [hfull, hfilter]

theorem ofRun_without {env : Environment} {v : Variable} (h : env.lookup v = none)
    (network : Network) : ofRun env network = ofRun (env.without v) network := by
  refine ofRun_congr (Environment.lookup_without h).symm ?_ network
  have hname : Log.variable ≠ v.name := by
    cases v <;> decide
  unfold Environment.text? Environment.without
  rw [if_neg hname]

/-! ### Using an option, and stopping -/

/-- **The run uses these bytes for an optional variable**: as the address that routes are joined to,
or as the timeout. -/
inductive Uses (env : Environment) : Variable → Bytes → Prop
  | address {request : CheckRequest} {client : Client} {text : String}
      (employs : Employs env request client) (read : Address.parse text.toList = .ok client.base) :
      Uses env .baseAddress (Text.toBytes text.toList)
  | timeout {request : CheckRequest} {client : Client} {text : String} {n : Nat}
      (employs : Employs env request client) (named : NamesSeconds text n)
      (waits : client.timeout = some n) : Uses env .timeout (Text.toBytes text.toList)

/-- **The run stops** before it has a client: it fails, and nothing is sent. -/
structure Stops (env : Environment) : Prop where
  idle : ∀ request client, ¬ Employs env request client
  fails : ∀ network, (ofRun env network).exitCode = 1 ∧ (ofRun env network).requests = []

section Options

variable {env : Environment} {request : CheckRequest} {v : Variable} {value : Bytes}

theorem Uses.isText (h : Uses env v value) : IsText value := by
  cases h with
  | address | timeout => exact ⟨_, rfl⟩

/-- A timeout that names no number of seconds is the first fault behind what is checked. -/
theorem first_of_timeout (checked : (CheckRequest.ask env.lookup).answer = .ok request)
    {text : String} (holds : env.lookup.Holds .timeout text)
    (unread : ∀ n, ¬ NamesSeconds text n) :
    env.lookup.FirstFault Variable.all (Variable.needed ++ [.baseAddress]) .timeout
      (.invalid .timeout text) := by
  have hturn : Asked.InTurn env.lookup Variable.needed (CheckRequest.ask env.lookup) :=
    CheckRequest.inTurn_ask
  refine ⟨⟨[], rfl⟩, fun w hw => ?_, .unreadable holds unread⟩
  rcases List.mem_append.1 hw with hw | hw
  · cases hturn with
    | passes names answer sound => exact sound w hw
    | stops names answer first => cases checked.symm.trans answer
  · rw [List.mem_singleton.1 hw]
    exact Lookup.sound_baseAddress

/-- The address of a client is the one that is given. -/
theorem Employs.base_eq {client : Client} {text : String} (h : Employs env request client)
    (holds : env.lookup.Holds .baseAddress text) :
    Address.parse text.toList = .ok client.base := by
  obtain ⟨reads, built⟩ := h
  have hbase := (ConnectionOptions.answer_ask_eq_ok_iff.1 reads.reached).1
  rw [Lookup.given_eq_some_iff.2 holds] at hbase
  have hparse := (Client.build_eq_ok_iff.1 built).1
  rwa [hbase] at hparse

/-- The timeout of a client is the one that is given. -/
theorem Employs.timeout_eq {client : Client} {text : String} (h : Employs env request client)
    (holds : env.lookup.Holds .timeout text) :
    ∃ n, NamesSeconds text n ∧ client.timeout = some n := by
  obtain ⟨reads, built⟩ := h
  obtain ⟨-, -, -, hwaits⟩ := Client.build_eq_ok_iff.1 built
  rcases (ConnectionOptions.answer_ask_eq_ok_iff.1 reads.reached).2 with ⟨hlacks, -⟩ |
    ⟨raw, n, hraw, hnamed, hn⟩
  · exact absurd holds (hlacks text)
  · rw [holds.unique hraw]
    exact ⟨n, hnamed, hwaits.trans hn⟩

/-- A client uses what is given. -/
theorem Employs.uses {client : Client} {text : String} (h : Employs env request client)
    (hv : v = .baseAddress ∨ v = .timeout) (holds : env.lookup.Holds v text) :
    Uses env v (Text.toBytes text.toList) := by
  rcases hv with rfl | rfl
  · exact .address h (h.base_eq holds)
  · obtain ⟨n, hnamed, hwaits⟩ := h.timeout_eq holds
    exact .timeout h hnamed hwaits

theorem not_crashes (checked : (CheckRequest.ask env.lookup).answer = .ok request)
    (legal : ¬ request.credential.HasControl) : ¬ Crashes env := by
  rintro ⟨request', options, reads, hbuild⟩
  cases checked.symm.trans reads.checked
  obtain ⟨-, token, htoken, hcontrol⟩ := Client.build_eq_crashed_iff.1 hbuild
  cases htoken
  exact legal hcontrol

/-- With what is checked at hand, and a credential that may be sent, a run has a client unless its
timeout names no number of seconds or its address cannot be read. -/
theorem employs_or_unread (checked : (CheckRequest.ask env.lookup).answer = .ok request)
    (legal : ¬ request.credential.HasControl) :
    (∃ client, Employs env request client) ∨
      (∃ text, env.lookup.Holds .timeout text ∧ ∀ n, ¬ NamesSeconds text n) ∨
        ∃ text e, env.lookup.Holds .baseAddress text ∧ Address.parse text.toList = .error e := by
  rcases hoptions : (ConnectionOptions.ask env.lookup).answer with e | options
  · -- of the two variables only the timeout is ever at fault
    right; left
    have hfails := ConnectionOptions.answer_ask env.lookup
    rw [hoptions] at hfails
    rcases hgiven : env.lookup.given .timeout with _ | text
    · rw [hgiven] at hfails
      cases hfails
    refine ⟨text, Lookup.given_eq_some_iff.1 hgiven, fun n hnamed => ?_⟩
    rw [hgiven] at hfails
    simp only [secondsOfText?_eq_some_iff.2 hnamed] at hfails
    cases hfails
  have reads : env.Reads request options := ⟨checked, hoptions⟩
  rcases hbuild : Client.build (some request.credential) options with (refusal | _) | client
  · right; right
    obtain ⟨⟨e, hparse⟩, -⟩ := Client.build_eq_refused_iff.1 hbuild
    have hbase := (ConnectionOptions.answer_ask_eq_ok_iff.1 hoptions).1
    rcases hgiven : env.lookup.given .baseAddress with _ | text
    · -- the usual address can be read
      rw [hbase, hgiven] at hparse
      cases hparse
    · rw [hbase, hgiven] at hparse
      exact ⟨text, e, Lookup.given_eq_some_iff.1 hgiven, hparse⟩
  · exact absurd ⟨request, options, reads, hbuild⟩ (not_crashes checked legal)
  · exact .inl ⟨client, reads, hbuild⟩

/-- A run without a client stops. -/
theorem stops_of_idle (checked : (CheckRequest.ask env.lookup).answer = .ok request)
    (legal : ¬ request.credential.HasControl)
    (hidle : ∀ request client, ¬ Employs env request client) : Stops env := by
  refine ⟨hidle, fun network => ⟨?_, requests_full_of_idle hidle network⟩⟩
  rcases crashes_or_fails_or_fetches env network with hcrash | ⟨message, causes, hfails⟩ |
    ⟨request', combined, reads, built, -⟩
  · exact absurd hcrash (not_crashes checked legal)
  · exact congrArg Prod.fst (streams_full_of_fails hfails)
  · exact absurd ⟨reads, built⟩ (hidle request' _)

theorem stops_iff (checked : (CheckRequest.ask env.lookup).answer = .ok request)
    (legal : ¬ request.credential.HasControl) :
    Stops env ↔
      (∃ text, env.lookup.Holds .timeout text ∧ ∀ n, ¬ NamesSeconds text n) ∨
        ∃ text e, env.lookup.Holds .baseAddress text ∧ Address.parse text.toList = .error e := by
  constructor
  · intro hstops
    rcases employs_or_unread checked legal with ⟨client, hemploys⟩ | hunread
    · exact absurd hemploys (hstops.idle request client)
    · exact hunread
  · rintro (⟨text, holds, unread⟩ | ⟨text, e, holds, unread⟩)
    · have first := first_of_timeout checked holds unread
      exact stops_of_idle checked legal (not_employs_of_first first)
    · refine stops_of_idle checked legal fun request client hemploys => ?_
      cases unread.symm.trans (hemploys.base_eq holds)

/-- The first request of a run goes to the server of its client. -/
theorem Employs.head_origin {client : Client} (h : Employs env request client) {network : Network}
    {r : Http.Request} (hr : (ofRun env network).requests.head? = some r) :
    client.base.origin? = some r.origin := by
  have hsent : (ofRun env network).requests = (client.combinedStatus network request.repository
      request.commit).requests := by
    rw [← Client.check_requests client network _ _ request.requiredContext]
    exact h.requests_full network
  rw [Client.combinedStatus_eq_fetch] at hsent
  obtain ⟨visits, hvisits, horigin⟩ := client.exists_fetch_requests_eq network
    (Client.statusRoute request.repository request.commit)
  rw [hsent, hvisits] at hr
  rcases visits with _ | ⟨visit, visits⟩
  · cases hr
  · cases hr
    exact horigin visit rfl

end Options

/-- **An option that is given is used, or the run stops, just if it is a text or the run stops
anyway.** This is about runs for which what is checked can be read and the credential may be sent;
they stop just over a timeout that names no number of seconds, which is reported as its fault, or an
address that cannot be read. Otherwise the first request goes to the server of the address that is
given. An option that is no text is taken for unset: the run is the one with the variable taken out of
its environment. -/
theorem given_option_used_iff {env : Environment} {request : CheckRequest}
    (checked : (CheckRequest.ask env.lookup).answer = .ok request)
    (legal : ¬ request.credential.HasControl) :
    (∀ v value, v = .baseAddress ∨ v = .timeout → env.Gives v value →
        (Uses env v value ∨ Stops env ↔ IsText value ∨ Stops env) ∧
          (¬ IsText value → ∀ network, ofRun env network = ofRun (env.without v) network)) ∧
      (Stops env ↔
        (∃ text, env.lookup.Holds .timeout text ∧ ∀ n, ¬ NamesSeconds text n) ∨
          ∃ text e, env.lookup.Holds .baseAddress text ∧ Address.parse text.toList = .error e) ∧
      (∀ text, env.lookup.Holds .timeout text → (∀ n, ¬ NamesSeconds text n) → ∀ network,
        ofRun env network =
          { exitCode := 1
            output := ""
            errors := warnings env ++
              ("Error: " ++ (SettingsError.invalid .timeout text).message ++ "\n")
            records := []
            requests := [] }) ∧
      ∀ text, env.lookup.Holds .baseAddress text → ∀ network r,
        (ofRun env network).requests.head? = some r →
          ∃ base, Address.parse text.toList = .ok base ∧ base.origin? = some r.origin := by
  refine ⟨fun v value hv given => ⟨⟨?_, ?_⟩, fun hvalue network => ?_⟩,
    stops_iff checked legal, fun text holds unread network => ?_, ?_⟩
  · exact Or.imp_left Uses.isText
  · rintro (⟨text, rfl⟩ | hstops)
    · have holds : env.lookup.Holds v text := Environment.holds_iff_gives.2 given
      rcases employs_or_unread checked legal with ⟨client, hemploys⟩ | hunread
      · exact .inl (hemploys.uses hv holds)
      · exact .inr ((stops_iff checked legal).2 hunread)
    · exact .inr hstops
  · exact ofRun_without (given.lookup_eq_none hvalue) network
  · exact ofRun_of_first (first_of_timeout checked holds unread) network
  · intro text holds network r hr
    by_cases hidle : ∀ request client, ¬ Employs env request client
    · have hsent : (ofRun env network).requests = [] := requests_full_of_idle hidle network
      rw [hsent] at hr
      cases hr
    · simp only [not_forall, Classical.not_not] at hidle
      obtain ⟨request', client, hemploys⟩ := hidle
      exact ⟨client.base, hemploys.base_eq holds, hemploys.head_origin hr⟩

/-- An address that is a text, and a timeout that is none: the one is used, and the other is as good as
unset. -/
theorem given_option_used_of_text :
    let text (s : String) : Bytes := Text.toBytes s.toList
    let env : Environment := fun name =>
      [("REPO", text "octo/widgets"), ("PR_HEAD_SHA", text "abc123"), ("GH_TOKEN", text "t0ken"),
        ("REQUIRED_CONTEXT", text "ci/build"), ("GITHUB_API_URL", text "http://stub/api/"),
        ("REQUEST_TIMEOUT_SECS", [0xC3])].lookup name
    let network : Network := { listens := fun _ => true, replies := [] }
    (CheckRequest.ask env.lookup).answer =
        .ok ⟨"octo/widgets", "abc123", ⟨"t0ken"⟩, "ci/build"⟩ ∧
      ¬ Secret.HasControl ⟨"t0ken"⟩ ∧ env.Gives .baseAddress (text "http://stub/api/") ∧
      env.Gives .timeout [0xC3] ∧
      (Uses env .baseAddress (text "http://stub/api/") ∨ Stops env) ∧
      ofRun env network = ofRun (env.without .timeout) network := by
  intro text env network
  have checked : (CheckRequest.ask env.lookup).answer =
      .ok ⟨"octo/widgets", "abc123", ⟨"t0ken"⟩, "ci/build"⟩ := by
    refine CheckRequest.answer_ask_eq_ok_iff.2 ⟨⟨?_, ?_⟩, ⟨?_, ?_⟩, ⟨?_, ?_⟩, ⟨?_, ?_⟩⟩ <;>
      decide +kernel
  have legal : ¬ Secret.HasControl ⟨"t0ken"⟩ := by
    rw [← Client.isLegalToken_eq_false_iff]
    decide
  have hbase : env.Gives .baseAddress (text "http://stub/api/") := ⟨rfl, by decide⟩
  have htimeout : env.Gives .timeout [0xC3] := ⟨rfl, by decide⟩
  have hnone : ¬ IsText [0xC3] := by
    rw [isText_iff]
    decide +kernel
  obtain ⟨hgiven, -⟩ := given_option_used_iff checked legal
  obtain ⟨hused, -⟩ := hgiven _ _ (.inl rfl) hbase
  obtain ⟨-, hdropped⟩ := hgiven _ _ (.inr rfl) htimeout
  exact ⟨checked, legal, hbase, htimeout, hused.2 (.inl ⟨_, rfl⟩), hdropped hnone network⟩

/-- **Options that are no text are dropped**: a run whose timeout is none passes, and one whose address
is none sends the credential to the usual server. -/
theorem option_dropped_if_no_text :
    let text (s : String) : Bytes := Text.toBytes s.toList
    let env (v : Variable) (value : Bytes) : Environment := fun name =>
      [(v.name, value), ("REPO", text "octo/widgets"), ("PR_HEAD_SHA", text "abc123"),
        ("GH_TOKEN", text "t0ken"), ("REQUIRED_CONTEXT", text "ci/build"),
        ("GITHUB_API_URL", text "http://stub")].lookup name
    let reply : Http.Reply :=
      { body := text "\x7b\"statuses\":[\x7b\"context\":\"ci/build\",\"state\":\"success\"\x7d]\x7d" }
    let network : Network := { listens := fun _ => true, replies := [reply.toBytes] }
    ((env .timeout [0xFF]).Gives .timeout [0xFF] ∧
        ¬ (Uses (env .timeout [0xFF]) .timeout [0xFF] ∨ Stops (env .timeout [0xFF])) ∧
        (ofRun (env .timeout [0xFF]) network).exitCode = 0) ∧
      (env .baseAddress [0xFF]).Gives .baseAddress [0xFF] ∧
        ¬ (Uses (env .baseAddress [0xFF]) .baseAddress [0xFF] ∨ Stops (env .baseAddress [0xFF])) ∧
        (ofRun (env .baseAddress [0xFF]) network).requests.map
            (fun r => (r.origin.host, r.values "authorization")) =
          [("api.github.com", ["Bearer t0ken"])] := by
  intro text env reply network
  have hnone : ¬ IsText [0xFF] := by
    rw [isText_iff]
    decide +kernel
  have hpasses : (ofRun (env .timeout [0xFF]) network).exitCode = 0 := by decide +kernel
  have hpasses' : (ofRun (env .baseAddress [0xFF]) network).exitCode = 0 := by decide +kernel
  -- a run that passes has not stopped
  have hgoes (v : Variable) (h : (ofRun (env v [0xFF]) network).exitCode = 0) :
      ¬ (Uses (env v [0xFF]) v [0xFF] ∨ Stops (env v [0xFF])) := by
    rintro (huses | hstops)
    · exact hnone huses.isText
    · have hone := (hstops.fails network).1
      rw [h] at hone
      exact absurd hone (by decide)
  exact ⟨⟨⟨rfl, by decide⟩, hgoes .timeout hpasses, hpasses⟩, ⟨rfl, by decide⟩,
    hgoes .baseAddress hpasses', by decide +kernel⟩

end Report

end CommitGate
