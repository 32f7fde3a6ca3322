import CommitGate.Proofs.Exchange.Trail
import CommitGate.Proofs.Report.Values

/-!
# What a call logs

A call logs that it asks, then how much it received, and then, if it is one for the gate, what was
decided. Each record stands for a step that was come to: the second is there just if there is a
combined status, and the third just if there is an outcome (`Performance.Agrees`). So the log of a
client can be read as an account of its calls, whatever the servers send and however many calls there
are (`Client.log_agrees_with_results`).
-/

namespace CommitGate

open Status (Combined)
open Text (Tells tells_quote tells_plain quote)

/-! ### Records -/

namespace Client

/-- The record that entries were received. -/
def receivedRecord (count : Nat) : Log.Record :=
  { level := .debug
    target := "check_local_status::github::get_combined_status"
    text := "received " ++ toString count ++ " status entries" }

/-- The record that the gate decided about a commit. -/
def decidedRecord (repository commit required : String) (outcome : Outcome) : Log.Record :=
  { level := .info
    target := "check_local_status::check"
    text := repository ++ "@" ++ commit ++ ": required context " ++ quote required ++ " -> " ++
      outcome.describe }

variable {route route' repository commit required required' : String} {count count' : Nat}
  {outcome outcome' : Outcome}

theorem askedRecord_inj : askedRecord route = askedRecord route' ↔ route = route' := by
  simp only [askedRecord, Log.Record.mk.injEq, true_and, String.append_right_inj]

theorem receivedRecord_inj : receivedRecord count = receivedRecord count' ↔ count = count' := by
  refine ⟨fun h => ?_, congrArg receivedRecord⟩
  have htext := congrArg Log.Record.text h
  simp only [receivedRecord, String.append_left_inj, String.append_right_inj] at htext
  have hread := congrArg (fun text => Nat.ofDigitChars 10 text.toList 0) htext
  simpa [Nat.toString_eq_ofList_toDigits] using hread

/-- The record of a decision tells the context and the outcome, of a commit that is known. -/
theorem decidedRecord_inj :
    decidedRecord repository commit required outcome =
        decidedRecord repository commit required' outcome' ↔
      required = required' ∧ outcome = outcome' := by
  constructor
  · intro h
    have htext := congrArg Log.Record.text h
    simp only [decidedRecord, String.append_assoc, String.append_right_inj] at htext
    have harrow : Tells " -> " [] := tells_plain (by decide)
    have htells := (tells_quote required).append (harrow.append outcome.tells_describe)
    have htells' := (tells_quote required').append (harrow.append outcome'.tells_describe)
    obtain ⟨rfl, -⟩ := List.cons_eq_cons.1 (htells.values_eq htells' htext)
    simp only [String.append_right_inj] at htext
    exact ⟨rfl, Outcome.describe_inj.1 htext⟩
  · rintro ⟨rfl, rfl⟩
    rfl

/-! Records of different steps are told apart by their level or the first letter of their text. -/

theorem askedRecord_ne_receivedRecord : askedRecord route ≠ receivedRecord count := by
  intro h
  have htext := congrArg (fun record : Log.Record => record.text.toList.head?) h
  simp [askedRecord, receivedRecord] at htext

theorem askedRecord_ne_decidedRecord :
    askedRecord route ≠ decidedRecord repository commit required outcome := by
  intro h
  cases congrArg Log.Record.level h

theorem receivedRecord_ne_decidedRecord :
    receivedRecord count ≠ decidedRecord repository commit required outcome := by
  intro h
  cases congrArg Log.Record.level h

end Client

open Client

/-! ### Calls and what they come to -/

/-- The route that a call asks for. -/
def Errand.route (e : Errand) : String := statusRoute e.repository e.commit

/-- A call that was made: what came back, what the gate decided if it was asked, and the records that
were logged. -/
structure Performance where
  errand : Errand
  fetched : Except CallError Combined
  decided : Option (Except CallError Outcome)
  records : List Log.Record

namespace Performance

/-- **The records agree with the results.** There are three kinds of calls. -/
inductive Agrees : Performance → Prop
  /-- Nothing came back, and the gate had nothing to decide about. -/
  | failed (e : Errand) (error : CallError) :
      Agrees
        { errand := e
          fetched := .error error
          decided := e.required.map fun _ => .error error
          records := [askedRecord e.route] }
  /-- The gate was not asked. -/
  | fetched (e : Errand) (combined : Combined) (ungated : e.required = none) :
      Agrees
        { errand := e
          fetched := .ok combined
          decided := none
          records := [askedRecord e.route, receivedRecord combined.statuses.length] }
  | decided (e : Errand) (combined : Combined) (required : String) (outcome : Outcome)
      (gated : e.required = some required) (evaluated : evaluate combined required = outcome) :
      Agrees
        { errand := e
          fetched := .ok combined
          decided := some (.ok outcome)
          records := [askedRecord e.route, receivedRecord combined.statuses.length,
            decidedRecord e.repository e.commit required outcome] }

namespace Agrees

variable {p : Performance} {route required : String} {count : Nat} {outcome : Outcome}

theorem head?_records (h : p.Agrees) : p.records.head? = some (askedRecord p.errand.route) := by
  cases h with
  | failed | fetched | decided => rfl

theorem nodup_records (h : p.Agrees) : p.records.Nodup := by
  cases h with
  | failed | fetched | decided =>
    simp [askedRecord_ne_receivedRecord, askedRecord_ne_decidedRecord,
      receivedRecord_ne_decidedRecord]

theorem askedRecord_mem_iff (h : p.Agrees) :
    askedRecord route ∈ p.records ↔ route = p.errand.route := by
  cases h with
  | failed | fetched | decided =>
    simp [askedRecord_inj, askedRecord_ne_receivedRecord, askedRecord_ne_decidedRecord]

theorem receivedRecord_mem_iff (h : p.Agrees) :
    receivedRecord count ∈ p.records ↔
      ∃ combined, p.fetched = .ok combined ∧ count = combined.statuses.length := by
  cases h with
  | failed => simp [askedRecord_ne_receivedRecord.symm]
  | fetched | decided =>
    simp [receivedRecord_inj, askedRecord_ne_receivedRecord.symm, receivedRecord_ne_decidedRecord]

theorem decidedRecord_mem_iff (h : p.Agrees) :
    decidedRecord p.errand.repository p.errand.commit required outcome ∈ p.records ↔
      p.errand.required = some required ∧ p.decided = some (.ok outcome) := by
  cases h with
  | failed e error => simp [askedRecord_ne_decidedRecord.symm]
  | fetched e combined ungated =>
    simp [askedRecord_ne_decidedRecord.symm, receivedRecord_ne_decidedRecord.symm]
  | decided e combined required' outcome' gated evaluated =>
    simp [askedRecord_ne_decidedRecord.symm, receivedRecord_ne_decidedRecord.symm,
      decidedRecord_inj, gated, eq_comm]

/-- A call with an error logs that it asks and nothing else. -/
theorem records_of_error {error : CallError} (h : p.Agrees)
    (herror : p.fetched = .error error ∨ p.decided = some (.error error)) :
    p.records = [askedRecord p.errand.route] := by
  cases h with
  | failed => rfl
  | fetched | decided => simp at herror

end Agrees

end Performance

namespace Client

/-- A call, as it is made. -/
def perform (client : Client) (network : Network) (e : Errand) : Performance :=
  let call := client.combinedStatus network e.repository e.commit
  match e.required with
  | none => { errand := e, fetched := call.result, decided := none, records := call.records }
  | some required =>
    let checked := client.check network e.repository e.commit required
    { errand := e
      fetched := call.result
      decided := some checked.result
      records := checked.records }

/-- Calls, one after another. -/
def performAll (client : Client) (network : Network) : List Errand → List Performance
  | [] => []
  | e :: errands =>
    client.perform network e :: client.performAll (client.afterErrand network e) errands

/-- What calls log, one after another. -/
def log (client : Client) (network : Network) (errands : List Errand) : List Log.Record :=
  (client.performAll network errands).flatMap Performance.records

/-- A call about a route logs that it asks, and how much it received if it received anything. -/
theorem fetch_records (client : Client) (network : Network) (route : String) :
    (client.fetch network route).records =
      askedRecord route :: receivedRecords route (client.fetch network route).result := by
  rcases hp : Address.parse route.toList with e | address
  · rw [fetch_eq_of_bad hp]
    rfl
  · obtain ⟨visits, last, left, hm⟩ := client.exists_meets network address.target
    rw [fetch_eq hp hm]

/-- **One call**: its records agree with what it came to. -/
theorem perform_agrees (client : Client) (network : Network) (e : Errand) :
    (client.perform network e).Agrees := by
  have hcall : client.combinedStatus network e.repository e.commit = client.fetch network e.route :=
    combinedStatus_eq_fetch ..
  have hrecords := client.fetch_records network e.route
  unfold perform check
  rw [← hcall] at hrecords
  generalize client.combinedStatus network e.repository e.commit = call at hrecords ⊢
  rcases call with ⟨error | combined, records, requests, network'⟩
  · obtain rfl : records = [askedRecord e.route] := hrecords
    rcases e with ⟨repository, commit, _ | required⟩
    · exact .failed ⟨repository, commit, none⟩ error
    · exact .failed ⟨repository, commit, some required⟩ error
  · obtain rfl : records = [askedRecord e.route, receivedRecord combined.statuses.length] :=
      hrecords
    rcases e with ⟨repository, commit, _ | required⟩
    · exact .fetched ⟨repository, commit, none⟩ combined rfl
    · exact .decided ⟨repository, commit, some required⟩ combined required _ rfl rfl

/-! ### Calls, one after another -/

theorem performAll_errands (client : Client) (network : Network) (errands : List Errand) :
    (client.performAll network errands).map Performance.errand = errands := by
  induction errands generalizing network with
  | nil => rfl
  | cons e errands ih =>
    have herrand : (client.perform network e).errand = e := by
      unfold perform
      split <;> rfl
    rw [performAll, List.map_cons, herrand, ih]

theorem performAll_agrees (client : Client) (network : Network) (errands : List Errand) :
    ∀ p ∈ client.performAll network errands, p.Agrees := by
  induction errands generalizing network with
  | nil => simp [performAll]
  | cons e errands ih =>
    intro p hp
    rw [performAll, List.mem_cons] at hp
    rcases hp with rfl | hp
    · exact client.perform_agrees network e
    · exact ih _ p hp

theorem performAll_append (client : Client) (network : Network) (errands later : List Errand) :
    client.performAll network (errands ++ later) = client.performAll network errands ++
      client.performAll (client.afterErrands network errands) later := by
  induction errands generalizing network with
  | nil => rfl
  | cons e errands ih =>
    rw [List.cons_append, performAll, ih, performAll, List.cons_append]
    rfl

/-- Later calls log behind earlier ones. -/
theorem log_append (client : Client) (network : Network) (errands later : List Errand) :
    client.log network (errands ++ later) =
      client.log network errands ++ client.log (client.afterErrands network errands) later := by
  unfold log
  rw [performAll_append, List.flatMap_append]

/-- **The log agrees with the results.** Whatever calls a client makes, and whatever is sent to it,
each call logs its own records behind those of the calls before. The first is that it asks, also if
nothing is sent. The record of entries that were received is there just if there is a combined status
with so many entries, and the record of a decision just if the gate was asked and that is its outcome.
No record is there twice, and there is no other; a call with an error has the first record alone. -/
theorem log_agrees_with_results (client : Client) (network : Network) (errands : List Errand) :
    let session := client.performAll network errands
    session.map Performance.errand = errands ∧
      client.log network errands = session.flatMap Performance.records ∧
      (∀ later, client.log network (errands ++ later) =
        client.log network errands ++ client.log (client.afterErrands network errands) later) ∧
      ∀ p ∈ session, p.Agrees ∧ p.records.head? = some (askedRecord p.errand.route) ∧
        p.records.Nodup ∧
        (∀ route, askedRecord route ∈ p.records ↔ route = p.errand.route) ∧
        (∀ count, receivedRecord count ∈ p.records ↔
          ∃ combined, p.fetched = .ok combined ∧ count = combined.statuses.length) ∧
        (∀ required outcome,
          decidedRecord p.errand.repository p.errand.commit required outcome ∈ p.records ↔
            p.errand.required = some required ∧ p.decided = some (.ok outcome)) ∧
        ∀ error, p.fetched = .error error ∨ p.decided = some (.error error) →
          p.records = [askedRecord p.errand.route] := by
  intro session
  refine ⟨client.performAll_errands network errands, rfl, client.log_append network errands, ?_⟩
  intro p hp
  have hagrees : p.Agrees := client.performAll_agrees network errands p hp
  refine ⟨hagrees, hagrees.head?_records, hagrees.nodup_records, fun route => ?_, fun count => ?_,
    fun required outcome => ?_, fun error herror => ?_⟩
  · exact hagrees.askedRecord_mem_iff
  · exact hagrees.receivedRecord_mem_iff
  · exact hagrees.decidedRecord_mem_iff
  · exact hagrees.records_of_error herror

/-- A call about no address, one for a combined status, one for the gate, and one that nobody answers
any more. -/
example :
    let client : Client :=
      { base := { scheme := some .http, authority := "stub".toList, target := { path := [] } }
        token := none
        timeout := none }
    let body := "\x7b\"statuses\":[\x7b\"context\":\"ci\",\"state\":\"success\"\x7d]\x7d"
    let reply : Http.Reply := { body := Text.toBytes body.toList }
    let network : Network := { listens := fun _ => true, replies := [reply.toBytes, reply.toBytes] }
    let errands : List Errand :=
      [{ repository := "o w", commit := "abc" }, { repository := "o/w", commit := "abc" },
        { repository := "o/w", commit := "abc", required := some "ci" },
        { repository := "o/w", commit := "abc", required := some "ci" }]
    (client.log network errands).map Log.Record.text =
      ["GET /repos/o w/commits/abc/status",
        "GET /repos/o/w/commits/abc/status", "received 1 status entries",
        "GET /repos/o/w/commits/abc/status", "received 1 status entries",
        "o/w@abc: required context \"ci\" -> Passed \x7b context: \"ci\" \x7d",
        "GET /repos/o/w/commits/abc/status"] := by
  decide +kernel

end Client

end CommitGate
