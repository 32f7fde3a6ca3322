import CommitGate.Proofs.Call
import CommitGate.Proofs.Json.Decoder

/-!
# What counts of a body

The combined status of a commit is read from the front of a body, so a call takes the first value
that a body starts with (`Client.combinedStatus_result_of_success`). That is the combined status which
the body as a whole decodes to, unless the body goes on behind that value with something other than
blanks: then the call still has a result, where the body as a whole is refused
(`Client.combinedStatus_of_trailing_text`).
-/

namespace CommitGate

open Json (Decoder Refusal)
open Http (Response)
open Status (Combined Entry)

/-! ### Where a combined status ends -/

theorem Status.Entry.closes_decoder : Entry.decoder.Closes := by
  refine Decoder.closes_record fun field hfield => ?_
  simp only [Entry.shape, List.mem_cons, List.not_mem_nil, or_false] at hfield
  rcases hfield with rfl | rfl
  · exact Decoder.closes_string.orNull.map _
  · exact Decoder.closes_string.orNull.map _

/-- A combined status shows where it ends. -/
theorem Status.Combined.closes_decoder : Combined.decoder.Closes := by
  refine Decoder.closes_record fun field hfield => ?_
  simp only [Combined.shape, List.mem_cons, List.not_mem_nil, or_false] at hfield
  subst hfield
  exact Entry.closes_decoder.list.map _

namespace Client

/-! ### Bodies of successful responses -/

section Success

variable {client : Client} {network : Network} {repository commit : String} {route : Address}
  {visits : List Visit} {response : Response} {left : List Bytes} {body : Bytes}

/-- A call that ends with a successful response gives what its body starts with. -/
theorem combinedStatus_result_eq_ofAnswer
    (hroute : Address.parse (statusRoute repository commit).toList = .ok route)
    (hmeets : client.Meets network route.target visits (some response) left)
    (hbody : response.body = some body) :
    (client.combinedStatus network repository commit).result =
      CommitGate.Combined.ofAnswer (some { status := response.status, body }) := by
  rw [combinedStatus_eq_fetch, fetch_eq hroute hmeets]
  simp only [Option.bind_some, Response.answer?, hbody, Option.map_some]

/-- **A successful response is read from its front**: the call gives what some beginning of the body
decodes to, and is told that the body is undecodable if no beginning does. That is what the body as a
whole decodes to just if the body does not go on behind a beginning that decodes. -/
theorem combinedStatus_result_of_success
    (hroute : Address.parse (statusRoute repository commit).toList = .ok route)
    (hmeets : client.Meets network route.target visits (some response) left)
    (hbody : response.body = some body) (hge : 200 ≤ response.status)
    (hlt : response.status < 300) :
    (∀ combined, (client.combinedStatus network repository commit).result = .ok combined ↔
        ∃ front behind, body = front ++ behind ∧ Combined.decoder.decode front = .ok combined) ∧
      ((∀ combined, (client.combinedStatus network repository commit).result ≠ .ok combined) →
        ∃ refusal, (client.combinedStatus network repository commit).result =
          .error (.undecodable refusal)) ∧
      ((∀ combined, (client.combinedStatus network repository commit).result = .ok combined ↔
          Combined.decoder.decode body = .ok combined) ↔
        ¬ Combined.decoder.Continues body) := by
  have hsuccess : Answer.isSuccess { status := response.status, body } = true := by
    simp [Answer.isSuccess, hge, hlt]
  have hresult : ∀ combined, (client.combinedStatus network repository commit).result =
      .ok combined ↔ Combined.decoder.decodeFront body = .ok combined := by
    intro combined
    rw [combinedStatus_result_eq_ofAnswer hroute hmeets hbody, Combined.ofAnswer_eq_ok_iff]
    simp [hsuccess]
  refine ⟨fun combined => ?_, fun hno => ?_, ?_⟩
  · rw [hresult, Decoder.decodeFront_eq_ok_iff Combined.closes_decoder]
  · simp only [hresult, ne_eq] at hno
    rcases hd : Combined.decoder.decodeFront body with refusal | combined
    · refine ⟨refusal, ?_⟩
      rw [combinedStatus_result_eq_ofAnswer hroute hmeets hbody]
      exact Combined.ofAnswer_undecodable hsuccess hd
    · exact absurd hd (hno combined)
  · simp only [hresult]
    exact Decoder.decodeFront_agrees_iff Combined.closes_decoder

end Success

/-- A body that ends in a line feed. -/
theorem combinedStatus_result_of_line_feed :
    let client : Client :=
      { base := { scheme := some .http, authority := "stub".toList, target := { path := ['/'] } }
        token := none
        timeout := none }
    let value := Text.toBytes "\x7b\"statuses\":[]\x7d".toList
    let network : Network :=
      { listens := fun _ => true
        replies := [Http.Reply.toBytes { body := value ++ [0x0A] }] }
    (client.combinedStatus network "octo/widgets" "abc123").result = .ok { statuses := [] } := by
  intro client value network
  let route : Address :=
    { scheme := none, authority := []
      target := { path := (statusRoute "octo/widgets" "abc123").toList } }
  let response : Response := { status := 200, location := none, body := some (value ++ [0x0A]) }
  have hroute : Address.parse (statusRoute "octo/widgets" "abc123").toList = .ok route := rfl
  have hread : Response.read? (Http.Reply.toBytes { body := value ++ [0x0A] }) = some response := by
    decide +kernel
  have hjoined : client.join network.joinLimit route.target =
      .value (client.address route.target) := by decide +kernel
  have hmeets : client.Meets network route.target
      [{ origin := ⟨false, "stub", 80⟩, target := route.target, seesOther := false }]
      (some response) [] :=
    .chain rfl hjoined (.final ⟨by decide, rfl, by decide⟩ hread (.inr (by decide)))
  have hdecode : Combined.decoder.decode value = .ok {} := by
    have h : (Combined.decoder.decode value).toOption = some {} := by decide +kernel
    rcases hd : Combined.decoder.decode value with e | combined
    · rw [hd] at h
      cases h
    · rw [hd] at h
      exact congrArg Except.ok (Option.some.inj h)
  have hfront := combinedStatus_result_of_success hroute hmeets rfl (by decide) (by decide)
  exact (hfront.1 {}).2 ⟨value, [0x0A], rfl, hdecode⟩

/-- **A body that goes on behind its value**: the call has a result, and the body as a whole has
none. -/
theorem combinedStatus_of_trailing_text :
    let client : Client :=
      { base := { scheme := some .http, authority := "stub".toList, target := { path := ['/'] } }
        token := none
        timeout := none }
    let body := Text.toBytes "\x7b\"statuses\":[]\x7d x".toList
    let network : Network :=
      { listens := fun _ => true, replies := [Http.Reply.toBytes { body }] }
    ¬ ∀ combined, (client.combinedStatus network "octo/widgets" "abc123").result = .ok combined ↔
      Combined.decoder.decode body = .ok combined := by
  intro client body network hagree
  have hresult : (client.combinedStatus network "octo/widgets" "abc123").result.toOption =
      some { statuses := [] } := by decide +kernel
  have hdecode : (Combined.decoder.decode body).toOption = none := by decide +kernel
  rcases hr : (client.combinedStatus network "octo/widgets" "abc123").result with e | combined
  · rw [hr] at hresult
    cases hresult
  · rw [(hagree combined).1 hr] at hdecode
    cases hdecode

end Client

end CommitGate
