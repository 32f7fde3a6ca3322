import CommitGate.Proofs.Call

/-!
# The results of a call

A call ends in one of six ways, each with its own kind of result (`Client.EndsIn`): its route is no
address, the chain of responses ends without a whole one, or it ends with a whole response, which
reports success or does not, and whose body can be read as what it should be or cannot. The result
of a call, and what it sends, are what this relation says and nothing else
(`Client.result_iff_endsIn`); so no response that reports a failure ever counts as a combined status,
whatever its body holds.
-/

namespace CommitGate

open Http (Request Response)
open Status (Combined)

namespace Client

/-- **The chain of a call ends with a whole response**, which has this status and this body. -/
inductive Completes (client : Client) (network : Network) (route : String) :
    (visits : List Visit) → (status : Nat) → (body : Bytes) → Prop
  | intro {address : Address} {visits : List Visit} {response : Response} {left : List Bytes}
      {body : Bytes} (parsed : Address.parse route.toList = .ok address)
      (meets : client.Meets network address.target visits (some response) left)
      (whole : response.body = some body) :
      client.Completes network route visits response.status body

/-- **The chain of a call ends without a whole response**: there is no last one, or it breaks off. -/
inductive BreaksOff (client : Client) (network : Network) (route : String) :
    (visits : List Visit) → Prop
  | intro {address : Address} {visits : List Visit} {last : Option Response} {left : List Bytes}
      (parsed : Address.parse route.toList = .ok address)
      (meets : client.Meets network address.target visits last left)
      (broken : ∀ response, last = some response → response.body = none) :
      client.BreaksOff network route visits

/-- **How a call about a route ends**: its result, and the requests that it sends. -/
inductive EndsIn (client : Client) (network : Network) (route : String) :
    (result : Except CallError Combined) → (requests : List Request) → Prop
  | badRoute {e : AddressError} (unread : Address.parse route.toList = .error e) :
      client.EndsIn network route (.error (.badRoute e)) []
  | unanswered {visits : List Visit} (broken : client.BreaksOff network route visits) :
      client.EndsIn network route (.error .unanswered) (requestsAlong client.headers true visits)
  | fetched {visits : List Visit} {status : Nat} {body : Bytes} {combined : Combined}
      (completes : client.Completes network route visits status body)
      (success : 200 ≤ status ∧ status < 300)
      (decoded : Status.Combined.decoder.decodeFront body = .ok combined) :
      client.EndsIn network route (.ok combined) (requestsAlong client.headers true visits)
  | undecodable {visits : List Visit} {status : Nat} {body : Bytes} {refusal : Json.Refusal}
      (completes : client.Completes network route visits status body)
      (success : 200 ≤ status ∧ status < 300)
      (undecoded : Status.Combined.decoder.decodeFront body = .error refusal) :
      client.EndsIn network route (.error (.undecodable refusal))
        (requestsAlong client.headers true visits)
  | rejected {visits : List Visit} {status : Nat} {body : Bytes} {e : ServerError}
      (completes : client.Completes network route visits status body)
      (failure : ¬ (200 ≤ status ∧ status < 300))
      (explained : ServerError.decoder.decode body = .ok e) :
      client.EndsIn network route (.error (.rejected status e))
        (requestsAlong client.headers true visits)
  | unexplained {visits : List Visit} {status : Nat} {body : Bytes} {refusal : Json.Refusal}
      (completes : client.Completes network route visits status body)
      (failure : ¬ (200 ≤ status ∧ status < 300))
      (unread : ServerError.decoder.decode body = .error refusal) :
      client.EndsIn network route (.error (.unexplained refusal))
        (requestsAlong client.headers true visits)

section Ends

variable {client : Client} {network : Network} {route : String} {visits : List Visit}

/-! ### What is made of a whole response -/

theorem isSuccess_iff (a : Answer) : a.isSuccess = true ↔ 200 ≤ a.status ∧ a.status < 300 := by
  simp [Answer.isSuccess]

theorem ofAnswer_of_success {status : Nat} {body : Bytes}
    (success : 200 ≤ status ∧ status < 300) :
    CommitGate.Combined.ofAnswer (some { status, body }) =
      match Status.Combined.decoder.decodeFront body with
      | .ok combined => .ok combined
      | .error refusal => .error (.undecodable refusal) := by
  unfold CommitGate.Combined.ofAnswer
  exact if_pos ((isSuccess_iff _).2 success)

theorem ofAnswer_of_failure {status : Nat} {body : Bytes}
    (failure : ¬ (200 ≤ status ∧ status < 300)) :
    CommitGate.Combined.ofAnswer (some { status, body }) =
      match ServerError.decoder.decode body with
      | .ok e => .error (.rejected status e)
      | .error refusal => .error (.unexplained refusal) := by
  unfold CommitGate.Combined.ofAnswer
  exact if_neg (mt (isSuccess_iff _).1 failure)

/-! ### Chains that end, and chains that break off -/

theorem BreaksOff.fetch_eq (h : client.BreaksOff network route visits) :
    (client.fetch network route).result = .error .unanswered ∧
      (client.fetch network route).requests = requestsAlong client.headers true visits := by
  cases h with
  | @intro address _ last left parsed meets broken =>
    have hanswer : last.bind Response.answer? = none := by
      rcases last with _ | response
      · rfl
      · simp [Response.answer?, broken response rfl]
    rw [Client.fetch_eq parsed meets, hanswer]
    exact ⟨rfl, rfl⟩

/-- A call whose chain ends with a whole response makes of it what it can. -/
theorem Completes.fetch_eq {status : Nat} {body : Bytes}
    (h : client.Completes network route visits status body) :
    (client.fetch network route).result = CommitGate.Combined.ofAnswer (some { status, body }) ∧
      (client.fetch network route).requests = requestsAlong client.headers true visits := by
  obtain ⟨parsed, meets, whole⟩ := h
  rw [Client.fetch_eq parsed meets]
  simp [Response.answer?, whole]

theorem completes_or_breaksOff {address : Address} (client : Client) (network : Network)
    (hp : Address.parse route.toList = .ok address) :
    (∃ visits status body, client.Completes network route visits status body) ∨
      ∃ visits, client.BreaksOff network route visits := by
  obtain ⟨visits, last, left, hm⟩ := client.exists_meets network address.target
  by_cases hwhole : ∃ response body, last = some response ∧ response.body = some body
  · obtain ⟨response, body, rfl, hbody⟩ := hwhole
    exact .inl ⟨visits, response.status, body, hp, hm, hbody⟩
  · refine .inr ⟨visits, hp, hm, fun response hlast => ?_⟩
    rcases hbody : response.body with _ | body
    · rfl
    · exact absurd ⟨response, body, hlast, hbody⟩ hwhole

/-! ### The ways to end -/

/-- Every call ends in some way. -/
theorem fetch_endsIn (client : Client) (network : Network) (route : String) :
    client.EndsIn network route (client.fetch network route).result
      (client.fetch network route).requests := by
  rcases hp : Address.parse route.toList with e | address
  · rw [fetch_eq_of_bad hp]
    exact .badRoute hp
  rcases completes_or_breaksOff client network hp with ⟨visits, status, body, hcompletes⟩ |
    ⟨visits, hbreaks⟩
  · obtain ⟨hresult, hrequests⟩ := hcompletes.fetch_eq
    rw [hresult, hrequests]
    -- the status says which of the two decoders looks at the body
    by_cases hstatus : 200 ≤ status ∧ status < 300
    · rw [ofAnswer_of_success hstatus]
      rcases hd : Status.Combined.decoder.decodeFront body with refusal | combined
      · exact .undecodable hcompletes hstatus hd
      · exact .fetched hcompletes hstatus hd
    · rw [ofAnswer_of_failure hstatus]
      rcases hd : ServerError.decoder.decode body with refusal | e
      · exact .unexplained hcompletes hstatus hd
      · exact .rejected hcompletes hstatus hd
  · obtain ⟨hresult, hrequests⟩ := hbreaks.fetch_eq
    rw [hresult, hrequests]
    exact .unanswered hbreaks

/-- A call ends in one way only. -/
theorem EndsIn.fetch_eq {result : Except CallError Combined} {requests : List Request}
    (h : client.EndsIn network route result requests) :
    (client.fetch network route).result = result ∧
      (client.fetch network route).requests = requests := by
  cases h with
  | badRoute unread =>
    rw [fetch_eq_of_bad unread]
    exact ⟨rfl, rfl⟩
  | unanswered broken => exact broken.fetch_eq
  | fetched completes success decoded | undecodable completes success decoded =>
    refine ⟨?_, completes.fetch_eq.2⟩
    rw [completes.fetch_eq.1, ofAnswer_of_success success, decoded]
  | rejected completes failure decoded | unexplained completes failure decoded =>
    refine ⟨?_, completes.fetch_eq.2⟩
    rw [completes.fetch_eq.1, ofAnswer_of_failure failure, decoded]

end Ends

/-- A redirect to a name that is written in wide digits: it is followed if the name has a form in
ASCII, and is the last response if it has none. -/
example :
    let client : Client :=
      { base := { scheme := some .http, authority := "stub".toList, target := { path := [] } }
        token := none
        timeout := none }
    let wide := "１.２.３.４".toList
    let listed : Host.Names :=
      { toAscii? := fun name => if name = wide then some "1.2.3.4".toList else none
        isAscii := by
          intro name form h
          split at h
          · cases h
            simp
          · cases h }
    let replies : List Http.Reply :=
      [{ status := "302 Found", location := some "http://１.２.３.４/a"
         body := Text.toBytes "\x7b\"message\":\"moved\"\x7d".toList },
        { body := Text.toBytes "\x7b\"statuses\":[]\x7d".toList }]
    let network : Network := { listens := fun _ => true, replies := replies.map Http.Reply.toBytes }
    let call (names : Host.Names) :=
      client.combinedStatus { network with names } "octo/widgets" "abc123"
    (call listed).requests.map (fun r => r.origin.host) = ["stub", "1.2.3.4"] ∧
      (call listed).result.toOption = some { statuses := [] } ∧
      (call .plain).requests.map (fun r => r.origin.host) = ["stub"] ∧
      (call .plain).result.toOption = none := by
  decide +kernel

end Client

end CommitGate
