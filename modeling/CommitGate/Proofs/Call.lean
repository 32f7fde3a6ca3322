import CommitGate.Call
import CommitGate.Proofs.Exchange.Chain

/-!
# Calls and what they meet

What a call gives, said of the chain of responses that it meets. The job that its work is run as adds
nothing.

* `Client.fetch_eq` — the whole of a call whose route is an address;
* `Client.fetch_requests_ne_nil_iff` — a call sends something just if its route is an address, and the
  client sets out with what it asks for (`Client.SetsOut`);
* `Client.combinedStatus_result_eq_ok_iff` — there is a combined status just if the route is an
  address, the last response of the chain was read to its end, reports success, and starts with a
  combined status;
* `Client.check_result_eq_ok_iff` — the gate decides about that combined status and about nothing
  else.
-/

namespace CommitGate

open Http (Request Response)
open Status (Combined)

/-! ### Work that is awaited -/

/-- Work that goes on from what other work delivers ends with a value, whether that crashes or not. -/
theorem Ending.map_awaited {α β : Type} (f : Except JobError α → β) (e : Ending α) :
    e.awaited.map f = .value (f e.delivery) := rfl

theorem Job.awaited_value (pauses : Nat) (result : Except CallError Combined) :
    (Job.spawned pauses (.value result)).awaited = result := rfl

/-! ### What is made of an answer -/

/-- An answer is a combined status just if it is there, reports success and starts with one. -/
theorem Combined.ofAnswer_eq_ok_iff {answer : Option Answer} {combined : Combined} :
    Combined.ofAnswer answer = .ok combined ↔
      ∃ a, answer = some a ∧ a.isSuccess = true ∧
        Status.Combined.decoder.decodeFront a.body = .ok combined := by
  rcases answer with _ | a
  · simp [Combined.ofAnswer]
  simp only [Combined.ofAnswer, Option.some.injEq, exists_eq_left']
  split
  · next hs =>
    rcases Status.Combined.decoder.decodeFront a.body with refusal | combined <;> simp [hs]
  · next hs =>
    rcases ServerError.decoder.decode a.body with refusal | e <;> simp [hs]

/-- An answer that reports success and starts with no combined status is undecodable. -/
theorem Combined.ofAnswer_undecodable {a : Answer} {refusal : Json.Refusal}
    (hs : a.isSuccess = true)
    (hd : Status.Combined.decoder.decodeFront a.body = .error refusal) :
    Combined.ofAnswer (some a) = .error (.undecodable refusal) := by
  simp [Combined.ofAnswer, hs, hd]

theorem Combined.ofAnswer_ne_badRoute {answer : Option Answer} {e : AddressError} :
    Combined.ofAnswer answer ≠ .error (.badRoute e) := by
  unfold Combined.ofAnswer
  intro h
  split at h
  · cases h
  split at h
  · split at h
    · cases h
    · cases h
  · split at h
    · cases h
    · cases h

namespace Client

variable {client : Client} {network : Network} {route repository commit required : String}

/-! ### Calls -/

/-- A call about a commit is one about its route. -/
theorem combinedStatus_eq_fetch (client : Client) (network : Network) (repository commit : String) :
    client.combinedStatus network repository commit =
      client.fetch network (statusRoute repository commit) := rfl

/-- The record of the request, in front of all others. -/
def askedRecord (route : String) : Log.Record :=
  { level := .debug
    target := "check_local_status::github::get_combined_status"
    text := "GET " ++ route }

/-- The record of what was received, if anything was. -/
def receivedRecords (route : String) (result : Except CallError Combined) : List Log.Record :=
  match result with
  | .error _ => []
  | .ok combined =>
    [{ askedRecord route with
        text := "received " ++ toString combined.statuses.length ++ " status entries" }]

/-- A call about a route that is no address sends nothing. -/
theorem fetch_eq_of_bad {route : String} {e : AddressError}
    (hp : Address.parse route.toList = .error e) :
    client.fetch network route =
      { result := .error (.badRoute e)
        records := [askedRecord route]
        requests := []
        network } := by
  simp only [fetch, work, hp, Work.call, Work.job, Job.awaited_value]
  rfl

/-- **A call about a route that is an address**: what it makes of the last response that it meets. -/
theorem fetch_eq {route : String} {address : Address} {visits : List Visit} {last : Option Response}
    {left : List Bytes} (hp : Address.parse route.toList = .ok address)
    (hm : client.Meets network address.target visits last left) :
    client.fetch network route =
      { result := Combined.ofAnswer (last.bind Response.answer?)
        records := askedRecord route ::
          receivedRecords route (Combined.ofAnswer (last.bind Response.answer?))
        requests := requestsAlong client.headers true visits
        network :=
          { network with
            replies := left
            isServed := (client.serve network address.target).isValue } } := by
  have hexchange := hm.exchange_eq
  have hdelivered : Exchange.ofDelivery network.replies
      (client.serve network address.target).delivery = _ := hexchange
  simp only [fetch, work, hp, Work.call, Work.job, Ending.map_awaited, Job.awaited_value,
    hexchange, hdelivered]
  rfl

/-- The requests of a call are those along what the client meets, if there are any. -/
theorem exists_fetch_requests_eq (client : Client) (network : Network) (route : String) :
    ∃ visits, (client.fetch network route).requests = requestsAlong client.headers true visits ∧
      ∀ visit, visits.head? = some visit → client.base.origin? = some visit.origin := by
  rcases hp : Address.parse route.toList with e | address
  · exact ⟨[], by rw [fetch_eq_of_bad hp]; rfl, by simp⟩
  · obtain ⟨visits, last, left, hm⟩ := client.exists_meets network address.target
    exact ⟨visits, by rw [fetch_eq hp hm], fun _ => hm.head_origin⟩

/-- A call has the error of a bad route just if the route is no address. -/
theorem fetch_result_eq_badRoute_iff {e : AddressError} :
    (client.fetch network route).result = .error (.badRoute e) ↔
      Address.parse route.toList = .error e := by
  rcases hp : Address.parse route.toList with e' | address
  · rw [fetch_eq_of_bad hp]
    simp
  · obtain ⟨visits, last, left, hm⟩ := client.exists_meets network address.target
    rw [fetch_eq hp hm]
    simp [Combined.ofAnswer_ne_badRoute]

/-- What a call asks for first is the document at the address that the route has for the client. -/
theorem target_of_first_request {request : Request}
    (h : (client.fetch network route).requests.head? = some request) :
    ∃ address, Address.parse route.toList = .ok address ∧
      request.target = (client.address address.target).target := by
  rcases hp : Address.parse route.toList with e | address
  · rw [fetch_eq_of_bad hp] at h
    cases h
  obtain ⟨visits, last, left, hm⟩ := client.exists_meets network address.target
  rw [fetch_eq hp hm] at h
  refine ⟨address, rfl, ?_⟩
  cases hm with
  | lost => cases h
  | chain served joined along =>
    rcases visits with _ | ⟨visit, visits⟩
    · cases h
    · cases h
      rw [address_of_join joined]
      exact (along.head_reaches rfl).target

/-- **The client sets out** with a text to ask for: its worker is there and the text is within the
limit for what is joined, the server of its base listens, and the connection to it can wait. -/
structure SetsOut (client : Client) (network : Network) (asked : List Char) : Prop where
  served : network.isServed = true
  within : ∀ n, network.joinLimit = some n → Text.byteLength asked ≤ n
  waits : client.canWait (network.clock Exchange.maxRedirects) = true
  listens : ∃ origin, client.base.origin? = some origin ∧ network.listens origin = true

theorem scheme_ne_none_of_origin? {address : Address} {origin : Origin}
    (h : address.origin? = some origin) : address.scheme ≠ none := by
  unfold Address.origin? at h
  intro hnone
  simp [hnone] at h

/-- The client sets out just if its worker joins the route to an address that it reaches. -/
theorem setsOut_iff {route : Target} :
    client.SetsOut network (client.address route).target.toText ↔
      network.isServed = true ∧
        ∃ address place, client.join network.joinLimit route = .value address ∧
          address.Reaches (client.web network) Exchange.maxRedirects place := by
  constructor
  · rintro ⟨served, within, waits, origin, horigin, hlistens⟩
    have hbase : ¬ (client.base.scheme = none ∧ client.base.authority ≠ []) := fun hnone =>
      scheme_ne_none_of_origin? horigin hnone.1
    refine ⟨served, client.address route, ⟨origin, _⟩, ?_, horigin, ?_, rfl⟩
    · exact join_eq_value_iff.2 ⟨hbase, within, rfl⟩
    · simp [web, hlistens, waits]
  · rintro ⟨served, address, place, joined, reaches⟩
    obtain ⟨-, within, rfl⟩ := join_eq_value_iff.1 joined
    have hconnects := reaches.connects
    simp only [web, Bool.and_eq_true] at hconnects
    exact ⟨served, within, hconnects.2, place.origin, reaches.origin, hconnects.1⟩

/-- A call sends something just if its route is an address, and the client sets out with it. -/
theorem fetch_requests_ne_nil_iff :
    (client.fetch network route).requests ≠ [] ↔
      ∃ address, Address.parse route.toList = .ok address ∧
        client.SetsOut network (client.address address.target).target.toText := by
  rcases hp : Address.parse route.toList with e | address
  · rw [fetch_eq_of_bad hp]
    simp
  obtain ⟨visits, last, left, hm⟩ := client.exists_meets network address.target
  have hvisits : requestsAlong client.headers true visits ≠ [] ↔ visits ≠ [] := by
    rw [← List.length_pos_iff, length_requestsAlong, List.length_pos_iff]
  rw [fetch_eq hp hm, hvisits]
  simp only [Except.ok.injEq, exists_eq_left', setsOut_iff]
  cases hm with
  | lost crash =>
    have hlost := serve_eq_crash_iff.1 crash
    simp only [ne_eq, not_true_eq_false, false_iff, not_and, not_exists]
    rintro served place address joined -
    rcases hlost with unserved | crashed
    · cases unserved.symm.trans served
    · cases crashed.symm.trans joined
  | chain served joined along =>
    rw [along.visits_ne_nil_iff]
    constructor
    · rintro ⟨place, reaches⟩
      exact ⟨served, _, place, joined, reaches⟩
    · rintro ⟨-, address', place, joined', reaches⟩
      cases joined.symm.trans joined'
      exact ⟨place, reaches⟩

/-- **There is a combined status** just if the route is an address and the last response of the chain
was read to its end, reports success, and starts with that combined status. -/
theorem combinedStatus_result_eq_ok_iff {combined : Combined} :
    (client.combinedStatus network repository commit).result = .ok combined ↔
      ∃ address visits response left body,
        Address.parse (statusRoute repository commit).toList = .ok address ∧
        client.Meets network address.target visits (some response) left ∧
        response.body = some body ∧ 200 ≤ response.status ∧ response.status < 300 ∧
        Status.Combined.decoder.decodeFront body = .ok combined := by
  rw [combinedStatus_eq_fetch]
  constructor
  · intro h
    rcases hp : Address.parse (statusRoute repository commit).toList with e | address
    · rw [fetch_eq_of_bad hp] at h
      cases h
    obtain ⟨visits, last, left, hm⟩ := client.exists_meets network address.target
    rw [fetch_eq hp hm] at h
    obtain ⟨a, ha, hs, hd⟩ := Combined.ofAnswer_eq_ok_iff.1 h
    obtain ⟨response, rfl, hr⟩ := Option.bind_eq_some_iff.1 ha
    obtain ⟨body, hb, rfl⟩ := Option.map_eq_some_iff.1 hr
    simp only [Answer.isSuccess, Bool.and_eq_true, decide_eq_true_eq] at hs
    exact ⟨address, visits, response, left, body, rfl, hm, hb, hs.1, hs.2, hd⟩
  · rintro ⟨address, visits, response, left, body, hp, hm, hb, h1, h2, hd⟩
    rw [fetch_eq hp hm]
    refine Combined.ofAnswer_eq_ok_iff.2 ⟨⟨response.status, body⟩, ?_, ?_, hd⟩
    · simp [Response.answer?, hb]
    · simp [Answer.isSuccess, h1, h2]

/-! ### What the gate makes of a call -/

theorem check_requests (client : Client) (network : Network) (repository commit required : String) :
    (client.check network repository commit required).requests =
      (client.combinedStatus network repository commit).requests := by
  unfold check
  generalize client.combinedStatus network repository commit = call
  rcases call with ⟨e | combined, records, requests, network'⟩ <;> rfl

theorem check_network (client : Client) (network : Network) (repository commit required : String) :
    (client.check network repository commit required).network =
      (client.combinedStatus network repository commit).network := by
  unfold check
  generalize client.combinedStatus network repository commit = call
  rcases call with ⟨e | combined, records, requests, network'⟩ <;> rfl

/-- The gate decides about the combined status of the call. -/
theorem check_result (client : Client) (network : Network) (repository commit required : String) :
    (client.check network repository commit required).result =
      (client.combinedStatus network repository commit).result.map
        fun combined => evaluate combined required := by
  unfold check
  generalize client.combinedStatus network repository commit = call
  rcases call with ⟨e | combined, records, requests, network'⟩ <;> rfl

/-- The gate has the errors of the call and no others. -/
theorem check_result_eq_error_iff {e : CallError} :
    (client.check network repository commit required).result = .error e ↔
      (client.combinedStatus network repository commit).result = .error e := by
  rw [check_result]
  rcases (client.combinedStatus network repository commit).result with e' | combined
  · simp [Except.map]
  · simp [Except.map]

theorem check_result_eq_ok_iff {outcome : Outcome} :
    (client.check network repository commit required).result = .ok outcome ↔
      ∃ combined, (client.combinedStatus network repository commit).result = .ok combined ∧
        evaluate combined required = outcome := by
  rw [check_result]
  rcases (client.combinedStatus network repository commit).result with e | combined
  · simp [Except.map]
  · simp [Except.map]

end Client

end CommitGate
