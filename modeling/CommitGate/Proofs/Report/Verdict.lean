import CommitGate.CommandLine
import CommitGate.Proofs.Call
import CommitGate.Proofs.Client
import CommitGate.Proofs.Gate
import CommitGate.Proofs.Report.Options
import CommitGate.Proofs.Settings

/-!
# When a run passes

`PassingRun` says what it should take to exit with zero, from the bytes of the settings to the entry
that decides. A run that has all of it does exit with zero; no other response, body or entry passes a
commit. But the run takes an option that is no text for one that is left out, so it passes just if it
has all that it takes in its environment without such values (`Environment.legible`), and that is more
than it should be just if it has such an option (`Report.exitCode_ofRun_eq_zero_iff`).
-/

namespace CommitGate

open Http (Request Response)
open Status (Combined Entry)

/-! ### Options, as bytes -/

namespace Environment

/-- **What an option is set to**: it is unset or empty, or set to a text. -/
inductive Offers (env : Environment) (v : Variable) : Option String → Prop
  | omitted (empty : env v.name = none ∨ env v.name = some []) : env.Offers v none
  | given {text : String} (gives : env.Gives v (Text.toBytes text.toList)) : env.Offers v (some text)

/-- The options are texts, as far as they are given. -/
def OptionsAreText (env : Environment) : Prop :=
  ∀ v value, v = .baseAddress ∨ v = .timeout → env.Gives v value → IsText value

/-- The environment without the values that are no text. -/
def legible (env : Environment) : Environment := fun name =>
  (env name).filter fun value => (Text.ofBytes? value).isSome

section Legible

variable {env : Environment} {v : Variable} {value : Bytes}

theorem text?_legible (env : Environment) (name : String) : env.legible.text? name = env.text? name := by
  unfold text? legible
  rcases env name with _ | value
  · rfl
  rcases h : Text.ofBytes? value with _ | chars
  · simp [Option.filter, h]
  · simp [Option.filter, h]

theorem lookup_legible (env : Environment) : env.legible.lookup = env.lookup := by
  funext v
  exact env.text?_legible v.name

theorem optionsAreText_legible (env : Environment) : env.legible.OptionsAreText := by
  intro v value _ ⟨hset, _⟩
  obtain ⟨-, hvalue⟩ := Option.filter_eq_some_iff.1 hset
  exact isText_iff.2 hvalue

theorem unset_or_empty_iff :
    env v.name = none ∨ env v.name = some [] ↔ ∀ value, ¬ env.Gives v value := by
  unfold Gives
  rcases env v.name with _ | _ | ⟨byte, value⟩
  · simp
  · simp
  · simp

/-- An option is read as what it is set to just if its value is not dropped. -/
theorem offers_iff {given : Option String} :
    env.Offers v given ↔
      env.lookup.given v = given ∧ ∀ value, env.Gives v value → IsText value := by
  constructor
  · intro h
    cases h with
    | omitted empty =>
      refine ⟨Lookup.given_eq_none_iff.2 fun text holds => ?_, fun value gives => ?_⟩
      · exact unset_or_empty_iff.1 empty _ (holds_iff_gives.1 holds)
      · exact absurd gives (unset_or_empty_iff.1 empty value)
    | given gives =>
      refine ⟨Lookup.given_eq_some_iff.2 (holds_iff_gives.2 gives), fun value gives' => ?_⟩
      exact ⟨_, Option.some.inj (gives.1.symm.trans gives'.1)⟩
  · rintro ⟨rfl, legible⟩
    rcases hgiven : env.lookup.given v with _ | text
    · refine .omitted (unset_or_empty_iff.2 fun value gives => ?_)
      obtain ⟨text, rfl⟩ := legible value gives
      exact Lookup.given_eq_none_iff.1 hgiven text (holds_iff_gives.2 gives)
    · exact .given (holds_iff_gives.1 (Lookup.given_eq_some_iff.1 hgiven))

/-- The timeout is read as what it is set to just if its value is not dropped. -/
theorem timeout_offered_iff {timeout : Option Nat} :
    (env.Offers .timeout none ∧ timeout = none ∨
        ∃ raw n, env.Offers .timeout (some raw) ∧ NamesSeconds raw n ∧ timeout = some n) ↔
      (env.lookup.Lacks .timeout ∧ timeout = none ∨
        ∃ raw n, env.lookup.Holds .timeout raw ∧ NamesSeconds raw n ∧ timeout = some n) ∧
      ∀ value, env.Gives .timeout value → IsText value := by
  simp only [offers_iff, Lookup.given_eq_none_iff, Lookup.given_eq_some_iff]
  constructor
  · rintro (⟨⟨hlacks, legible⟩, htimeout⟩ | ⟨raw, n, ⟨hholds, legible⟩, hnamed, htimeout⟩)
    · exact ⟨.inl ⟨hlacks, htimeout⟩, legible⟩
    · exact ⟨.inr ⟨raw, n, hholds, hnamed, htimeout⟩, legible⟩
  · rintro ⟨⟨hlacks, htimeout⟩ | ⟨raw, n, hholds, hnamed, htimeout⟩, legible⟩
    · exact .inl ⟨⟨hlacks, legible⟩, htimeout⟩
    · exact .inr ⟨raw, n, ⟨hholds, legible⟩, hnamed, htimeout⟩

end Legible

end Environment

/-- **What it should take to pass**, in the order in which a run comes to it. -/
structure PassingRun (env : Environment) (network : Network) where
  request : CheckRequest
  repository : env.Gives .repository (Text.toBytes request.repository.toList)
  commit : env.Gives .commit (Text.toBytes request.commit.toList)
  credential : env.Gives .credential (Text.toBytes request.credential.expose.toList)
  requiredContext : env.Gives .requiredContext (Text.toBytes request.requiredContext.toList)
  timeout : Option Nat
  /-- The variable of the timeout is left out or names that number. -/
  timeout_given : env.Offers .timeout none ∧ timeout = none ∨
    ∃ raw n, env.Offers .timeout (some raw) ∧ NamesSeconds raw n ∧ timeout = some n
  baseAddress : Option String
  base_given : env.Offers .baseAddress baseAddress
  base : Address
  /-- The base is read from its variable, if that is given. -/
  base_read : Address.parse (Client.baseText baseAddress) = .ok base
  token_legal : ∀ c ∈ request.credential.expose.toList, Client.isHeaderChar c = true
  route : Address
  route_read : Address.parse (Client.statusRoute request.repository request.commit).toList = .ok route
  visits : List Visit
  response : Response
  /-- What the servers have left to send. -/
  left : List Bytes
  /-- The chain of the call ends in the response. -/
  meets : Client.Meets { base, token := some request.credential, timeout } network route.target visits
    (some response) left
  body : Bytes
  body_read : response.body = some body
  status_ge : 200 ≤ response.status
  status_lt : response.status < 300
  combined : Combined
  /-- The body starts with the combined status; nothing is asked of what stands behind. -/
  decoded : Status.Combined.decoder.decodeFront body = .ok combined
  entry : Entry
  first : IsFirst combined.statuses request.requiredContext entry
  succeeded : entry.state = some "success"

namespace Report

/-! ### Exit codes -/

@[simp] theorem exitCode_ofError (message : String) (causes : List String) :
    (ofError message causes).exitCode = 1 := rfl

@[simp] theorem exitCode_ofOutcome (o : Outcome) : (ofOutcome o).exitCode = o.exitCode := by
  cases o <;> rfl

theorem exitCode_ofRun (env : Environment) (network : Network) :
    (ofRun env network).exitCode = (full env network).exitCode := rfl

/-- A run exits with zero just if its settings can be read, its client built, and its call ends with
an outcome that passes. -/
theorem exitCode_full_eq_zero_iff {env : Environment} {network : Network} :
    (full env network).exitCode = 0 ↔
      ∃ request options client context,
        (CheckRequest.ask env.lookup).answer = .ok request ∧
        (ConnectionOptions.ask env.lookup).answer = .ok options ∧
        Client.build (some request.credential) options = .ok client ∧
        (client.check network request.repository request.commit request.requiredContext).result =
          .ok (.passed context) := by
  unfold full
  rcases (CheckRequest.ask env.lookup).answer with e | request
  · simp
  rcases (ConnectionOptions.ask env.lookup).answer with e | options
  · simp
  rcases hb : Client.build (some request.credential) options with (refusal | _) | client
  · simp [hb]
  · simp [hb, crash]
  rcases hc : (client.check network request.repository request.commit
      request.requiredContext).result with e | outcome
  · simp [hb, hc]
  · simp [hb, hc, Outcome.exitCode_eq_zero_iff]

/-! ### Passing -/

section Passing

variable {env : Environment} {network : Network}

/-- A run has what it should take to pass just if it exits with zero and its options are texts. -/
theorem nonempty_passingRun_iff :
    Nonempty (PassingRun env network) ↔ (ofRun env network).exitCode = 0 ∧ env.OptionsAreText := by
  rw [exitCode_ofRun, exitCode_full_eq_zero_iff]
  simp only [CheckRequest.answer_ask_eq_ok_iff, ConnectionOptions.answer_ask_eq_ok_iff,
    Client.build_eq_ok_iff, Client.check_result_eq_ok_iff, evaluate_eq_passed_iff,
    Client.combinedStatus_result_eq_ok_iff]
  constructor
  · rintro ⟨p⟩
    obtain ⟨htimeout, htimeoutText⟩ := Environment.timeout_offered_iff.1 p.timeout_given
    obtain ⟨hbase, hbaseText⟩ := Environment.offers_iff.1 p.base_given
    refine ⟨⟨p.request, ⟨p.baseAddress, p.timeout⟩,
      ⟨p.base, some p.request.credential, p.timeout⟩, p.request.requiredContext,
      ⟨?_, ?_, ?_, ?_⟩, ⟨hbase.symm, htimeout⟩,
      ⟨p.base_read, List.all_eq_true.2 p.token_legal, rfl, rfl⟩, p.combined,
      ⟨p.route, p.visits, p.response, p.left, p.body, p.route_read, p.meets, p.body_read, p.status_ge,
        p.status_lt, p.decoded⟩, rfl, p.entry, p.first, p.succeeded⟩, ?_⟩
    · exact Environment.holds_iff_gives.2 p.repository
    · exact Environment.holds_iff_gives.2 p.commit
    · exact Environment.holds_iff_gives.2 p.credential
    · exact Environment.holds_iff_gives.2 p.requiredContext
    · rintro v value (rfl | rfl) gives
      · exact hbaseText value gives
      · exact htimeoutText value gives
  · rintro ⟨⟨request, ⟨baseAddress, _⟩, ⟨base, _, timeout⟩, _, ⟨h1, h2, h3, h4⟩,
      ⟨hbaseAddress, htimeout⟩, ⟨hbase, htoken, rfl, rfl⟩, combined,
      ⟨route, visits, response, left, body, hroute, hmeets, hbody, hge, hlt, hdecoded⟩,
      rfl, entry, hfirst, hsucceeded⟩, legible⟩
    have hoffered := Environment.timeout_offered_iff.2
      ⟨htimeout, fun value => legible _ value (.inr rfl)⟩
    have hbaseOffered := Environment.offers_iff.2
      ⟨hbaseAddress.symm, fun value => legible _ value (.inl rfl)⟩
    exact ⟨{ request, timeout, baseAddress, base, route, visits, response, left, body, combined, entry
             repository := Environment.holds_iff_gives.1 h1
             commit := Environment.holds_iff_gives.1 h2
             credential := Environment.holds_iff_gives.1 h3
             requiredContext := Environment.holds_iff_gives.1 h4
             timeout_given := hoffered
             base_given := hbaseOffered
             base_read := hbase
             token_legal := List.all_eq_true.1 htoken
             route_read := hroute
             meets := hmeets
             body_read := hbody
             status_ge := hge
             status_lt := hlt
             decoded := hdecoded
             first := hfirst
             succeeded := hsucceeded }⟩

end Passing

/-- **When a run exits with zero.** It does just if it has all that it should take to pass once the
values that are no text are left out of its environment. With all values it has that just if it exits
with zero and its options are texts. So what it should take is enough; but a run may pass that has not
all of it, and then the timeout or the address is set to something that is no text. -/
theorem exitCode_ofRun_eq_zero_iff (env : Environment) (network : Network) :
    ((ofRun env network).exitCode = 0 ↔ Nonempty (PassingRun env.legible network)) ∧
      (Nonempty (PassingRun env network) ↔
        (ofRun env network).exitCode = 0 ∧ env.OptionsAreText) := by
  refine ⟨?_, nonempty_passingRun_iff⟩
  have hrun : ofRun env.legible network = ofRun env network :=
    ofRun_congr env.lookup_legible (env.text?_legible Log.variable) network
  rw [nonempty_passingRun_iff, hrun, and_iff_left env.optionsAreText_legible]

/-- **A run passes whose timeout is no text**, so that it has not all that it should take. -/
theorem exitCode_zero_of_illegible_timeout :
    let text (s : String) : Bytes := Text.toBytes s.toList
    let env : Environment := fun name =>
      [("REPO", text "octo/widgets"), ("PR_HEAD_SHA", text "abc123"), ("GH_TOKEN", text "t0ken"),
        ("REQUIRED_CONTEXT", text "ci/build"), ("GITHUB_API_URL", text "http://stub"),
        ("REQUEST_TIMEOUT_SECS", [0xFF])].lookup name
    let reply : Http.Reply :=
      { body := text "\x7b\"statuses\":[\x7b\"context\":\"ci/build\",\"state\":\"success\"\x7d]\x7d" }
    let network : Network := { listens := fun _ => true, replies := [reply.toBytes] }
    (ofRun env network).exitCode = 0 ∧ ¬ Nonempty (PassingRun env network) := by
  intro text env reply network
  have hgives : env.Gives .timeout [0xFF] := ⟨rfl, by decide⟩
  have hnone : ¬ IsText [0xFF] := by
    rw [isText_iff]
    decide +kernel
  refine ⟨by decide +kernel, fun hpasses => ?_⟩
  obtain ⟨-, legible⟩ := nonempty_passingRun_iff.1 hpasses
  exact hnone (legible _ _ (.inr rfl) hgives)

end Report

end CommitGate
