import CommitGate.Proofs.Call.Results
import CommitGate.Proofs.Call.Timeout
import CommitGate.Proofs.Exchange.Trail
import CommitGate.Proofs.Job.Awaiting

/-!
# Calls deliver

The work of a call always ends, and with a result. Each of its own steps can only fail in a way that it
tells itself (`CallError.OfWork`). Two other tasks can crash on the way: the worker of the client, over
a request that it loses (`Client.LosesRequest`), and the task of a connection, over a time that the
clock cannot hold. The work sees neither crash but through a channel, and makes of it that there is no
answer. So the job that it is run as (`Work.job`) never goes away, however often it pauses and whatever
other jobs there are, and neither a call nor the gate ever has the error of a job
(`Client.call_delivers`).
-/

namespace CommitGate

open Status (Combined)

/-- **The error is one of the work**: something is wrong with the route, the exchange or the body. -/
inductive CallError.OfWork : CallError → Prop
  | badRoute (e : AddressError) : OfWork (.badRoute e)
  | unanswered : OfWork .unanswered
  | undecodable (refusal : Json.Refusal) : OfWork (.undecodable refusal)
  | unexplained (refusal : Json.Refusal) : OfWork (.unexplained refusal)
  | rejected (status : Nat) (e : ServerError) : OfWork (.rejected status e)

namespace Client

/-- **The worker of the client loses a request** about a route: it has gone away before, or it cannot
put the address together. The base may have a server and no scheme, and path and query may be longer
than the limit. -/
inductive LosesRequest (client : Client) (network : Network) (route : Target) : Prop
  | gone (unserved : network.isServed = false) : client.LosesRequest network route
  | schemeless (scheme : client.base.scheme = none) (authority : client.base.authority ≠ []) :
      client.LosesRequest network route
  | tooLong {limit : Nat} (limited : network.joinLimit = some limit)
      (long : limit < Text.byteLength (client.address route).target.toText) :
      client.LosesRequest network route

section Delivery

variable {client : Client} {network : Network} {route : String}

/-- A call ends with a combined status or with an error of its work. -/
theorem EndsIn.ofWork {result : Except CallError Combined} {requests : List Http.Request}
    (h : client.EndsIn network route result requests) :
    (∃ combined, result = .ok combined) ∨ ∃ e, result = .error e ∧ e.OfWork := by
  cases h with
  | badRoute => exact .inr ⟨_, rfl, .badRoute _⟩
  | unanswered => exact .inr ⟨_, rfl, .unanswered⟩
  | fetched => exact .inl ⟨_, rfl⟩
  | undecodable => exact .inr ⟨_, rfl, .undecodable _⟩
  | rejected => exact .inr ⟨_, rfl, .rejected _ _⟩
  | unexplained => exact .inr ⟨_, rfl, .unexplained _⟩

/-- None of the ways to end has the error of a job. -/
theorem EndsIn.ne_job {result : Except CallError Combined} {requests : List Http.Request}
    (h : client.EndsIn network route result requests) (e : JobError) : result ≠ .error (.job e) := by
  rintro rfl
  cases h

/-- **The work of a call ends with the result of the call**: none of its steps crashes. -/
theorem ending_work (client : Client) (network : Network) (route : String) :
    (client.work network route).ending = .value (client.fetch network route).result := by
  unfold fetch work
  split
  · rfl
  · rfl

/-- What a call gives is what its job delivers, however often that pauses. -/
theorem job_delivers (client : Client) (network : Network) (route : String) (pauses : Nat) :
    ((client.work network route).job pauses).Delivers (client.fetch network route).result := by
  unfold Work.job
  rw [ending_work]
  exact .ended pauses _

/-! ### Tasks that crash -/

/-- The worker crashes just over requests that it loses. -/
theorem serve_eq_crash_iff_loses {target : Target} :
    client.serve network target = .crash ↔ client.LosesRequest network target := by
  rw [serve_eq_crash_iff, join_eq_crash_iff]
  constructor
  · rintro (unserved | ⟨scheme, authority⟩ | ⟨limit, limited, long⟩)
    · exact .gone unserved
    · exact .schemeless scheme authority
    · exact .tooLong limited long
  · intro h
    cases h with
    | gone unserved => exact .inl unserved
    | schemeless scheme authority => exact .inr (.inl ⟨scheme, authority⟩)
    | tooLong limited long => exact .inr (.inr ⟨_, limited, long⟩)

/-- **It is the channel to the worker that keeps the work from going away**: work that put the address
together itself would go away over the requests that the worker loses. -/
theorem goesAway_of_own_join {target : Target} (pauses : Nat)
    (make : Exchange → Except CallError Combined) :
    (Job.spawned pauses ((client.serve network target).map make)).GoesAway ↔
      client.LosesRequest network target := by
  rw [← serve_eq_crash_iff_loses, ← Job.result_eq_error_iff (e := .channelClosed)]
  rcases client.serve network target with exchange | _
  · simp [Job.result, Ending.map, Ending.delivery]
  · simp [Job.result, Ending.map, Ending.delivery]

/-- A call that sends nothing about a route that is an address has no answer. -/
theorem result_of_silent {address : Address} (hp : Address.parse route.toList = .ok address)
    (hsilent : (client.fetch network route).requests = []) :
    (client.fetch network route).result = .error .unanswered := by
  obtain ⟨visits, last, left, hm⟩ := client.exists_meets network address.target
  rw [fetch_eq hp hm] at hsilent ⊢
  have hvisits : visits = [] := by
    rcases visits with _ | ⟨visit, visits⟩
    · rfl
    · cases hsilent
  subst hvisits
  cases hm with
  | lost => rfl
  | chain served joined along =>
    rw [along.last_of_no_visits rfl]
    rfl

/-- **Crashes of other tasks** leave a call without an answer, and with nothing sent: that of the
worker, that of the first connection. A base without a server comes to the same. -/
theorem fetch_of_crash {address : Address} (hp : Address.parse route.toList = .ok address)
    (crash : client.serve network address.target = .crash ∨
      client.deadline (network.clock Exchange.maxRedirects) = .crash ∨
      client.base.origin? = none) :
    (client.fetch network route).result = .error .unanswered ∧
      (client.fetch network route).requests = [] := by
  have hsilent : (client.fetch network route).requests = [] := by
    by_contra hsent
    obtain ⟨address', hp', hsets⟩ := fetch_requests_ne_nil_iff.1 hsent
    cases hp.symm.trans hp'
    obtain ⟨hserved, joined, place, hjoined, -⟩ := setsOut_iff.1 hsets
    rcases crash with crash | crash | hbase
    · rw [serve_of_join hserved hjoined] at crash
      cases crash
    · have hwaits := hsets.waits
      rw [canWait, crash] at hwaits
      cases hwaits
    · obtain ⟨origin, horigin, -⟩ := hsets.listens
      cases hbase.symm.trans horigin
  exact ⟨result_of_silent hp hsilent, hsilent⟩

/-- The worker is there after a call just if it does not crash over it. -/
theorem isServed_fetch {address : Address} (hp : Address.parse route.toList = .ok address) :
    (client.fetch network route).network.isServed =
      (client.serve network address.target).isValue := by
  obtain ⟨visits, last, left, hm⟩ := client.exists_meets network address.target
  rw [fetch_eq hp hm]

end Delivery

/-- **A call always delivers.** Whatever client it is made with, behind any other calls, about any
repository and any commit, and whatever the servers send, its work ends with a value: in one of the
ways that there are, with at most twenty-one requests, with a combined status or with an error of its
own. Its job delivers that result and does not go away; among any other jobs, crashing ones as well,
its handle gives it once under every schedule that serves it. So neither the call nor the gate ever has
the error of a job. Other tasks do crash: the worker of the client, just over a request that it loses,
and then it is not there for later calls, and the task of a connection. The call is left without an
answer then, as it is with a base that has no server; work that put the address together itself would
go away with its job. -/
theorem call_delivers (client : Client) (network : Network) (errands : List Errand)
    (repository commit required : String) :
    let route := statusRoute repository commit
    let before := client.afterErrands network errands
    let work := client.work before route
    let call := client.combinedStatus before repository commit
    work.ending = .value call.result ∧
      client.EndsIn before route call.result call.requests ∧ call.requests.length ≤ 21 ∧
      ((∃ combined, call.result = .ok combined) ∨ ∃ e, call.result = .error e ∧ e.OfWork) ∧
      (∀ pauses, (work.job pauses).awaited = call.result ∧ ¬ (work.job pauses).GoesAway) ∧
      (∀ jobs i pauses schedule, jobs[i]? = some (work.job pauses) → Serves jobs schedule i →
        ∃ n, ∀ m ≥ n, ((JobPool.start jobs).run (firstEvents schedule m)).handedOut i =
          [.ok call.result]) ∧
      (∀ e, call.result ≠ .error (.job e)) ∧
      (∀ e, (client.check before repository commit required).result ≠ .error (.job e)) ∧
      ∀ address, Address.parse route.toList = .ok address →
        (client.serve before address.target = .crash ↔
          client.LosesRequest before address.target) ∧
        (call.network.isServed = false ↔ client.LosesRequest before address.target) ∧
        (∀ pauses (make : Exchange → Except CallError Combined),
          (Job.spawned pauses ((client.serve before address.target).map make)).GoesAway ↔
            client.LosesRequest before address.target) ∧
        (client.LosesRequest before address.target ∨
            client.deadline (before.clock Exchange.maxRedirects) = .crash ∨
            client.base.origin? = none →
          call.result = .error .unanswered ∧ call.requests = []) := by
  intro route before work call
  have hfetch : call = client.fetch before route := combinedStatus_eq_fetch ..
  have hcall : client.EndsIn before route call.result call.requests := by
    rw [hfetch]
    exact client.fetch_endsIn before _
  obtain ⟨-, hmost⟩ := client.fetch_takes before route
  have hdelivers (pauses : Nat) : (work.job pauses).Delivers call.result := by
    rw [hfetch]
    exact client.job_delivers before route pauses
  have hresult (pauses : Nat) : (work.job pauses).result = .ok call.result :=
    Job.result_eq_ok_iff.2 (hdelivers pauses)
  refine ⟨?_, hcall, ?_, hcall.ofWork, fun pauses => ⟨?_, fun haway => ?_⟩,
    fun jobs i pauses schedule hjob hserves => ?_, hcall.ne_job,
    fun e he => hcall.ne_job e (check_result_eq_error_iff.1 he),
    fun address hp => ⟨serve_eq_crash_iff_loses, ?_, goesAway_of_own_join, fun crash => ?_⟩⟩
  · rw [hfetch]
    exact client.ending_work before route
  · rw [hfetch]
    exact hmost
  · rw [Job.awaited, hresult]
  · have herror := (Job.result_eq_error_iff (e := .channelClosed)).2 haway
    cases (hresult pauses).symm.trans herror
  · obtain ⟨n, hgiven⟩ := hserves.exists_handedOut hjob
    rw [hresult] at hgiven
    exact ⟨n, hgiven⟩
  · rw [hfetch, isServed_fetch hp, ← serve_eq_crash_iff_loses]
    rcases client.serve before address.target with e | _
    · simp [Ending.isValue]
    · simp [Ending.isValue]
  · rw [hfetch]
    exact fetch_of_crash hp (crash.imp_left serve_eq_crash_iff_loses.2)

/-- A base without a scheme, over which the worker crashes: the call is made beside a job that crashes
itself, and pauses twice. The next call finds no worker. -/
theorem call_delivers_without_scheme :
    let options : ConnectionOptions := { baseAddress := some "localhost" }
    let network : Network := { listens := fun _ => true, replies := [], joinLimit := some 65534 }
    let schedule : Nat → JobEvent := fun n => if n % 2 = 0 then .turn 1 else .look 1
    ∃ client, build none options = .ok client ∧
      let work := client.work network (statusRoute "octo/widgets" "abc123")
      let jobs := [.spawned 0 .crash, work.job 2]
      work.network.isServed = false ∧ Serves jobs schedule 1 ∧
        ∃ n, ((JobPool.start jobs).run (firstEvents schedule n)).handedOut 1 =
          [.ok (.error .unanswered)] := by
  intro options network schedule
  let client : Client :=
    { base := { scheme := none, authority := "localhost".toList, target := { path := [] } }
      token := none
      timeout := none }
  refine ⟨client, rfl, by decide +kernel, serves_alternating _ 1, ?_⟩
  obtain ⟨-, -, -, -, -, hserved, -, -, hcrash⟩ :=
    call_delivers client network [] "octo/widgets" "abc123" "ci/build"
  obtain ⟨-, -, -, hlost⟩ := hcrash _ rfl
  obtain ⟨hresult, -⟩ := hlost (.inl (.schemeless rfl (List.cons_ne_nil _ _)))
  obtain ⟨n, hn⟩ := hserved [.spawned 0 .crash, _] 1 2 schedule rfl (serves_alternating _ 1)
  have hgiven := hn n (Nat.le_refl n)
  rw [hresult] at hgiven
  exact ⟨n, hgiven⟩

end Client

end CommitGate
