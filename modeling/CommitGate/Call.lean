import CommitGate.Exchange
import CommitGate.Gate
import CommitGate.Log

/-!
# Calls

A call of a client asks the server for the combined status of a commit, and perhaps has the gate
decide about it. It tells what it does in log records. Its work is run as a job of its own, whose
handle is awaited; the work in turn awaits what the worker of the client makes of the request.
-/

namespace CommitGate

open Status (Combined)

/-- What a call does. -/
structure Call (α : Type) where
  result : Except CallError α
  /-- The log records, in order. -/
  records : List Log.Record
  /-- The requests, in order. -/
  requests : List Http.Request
  network : Network

/-- The work of a call: how it ends, and what it does on the way. -/
structure Work where
  ending : Ending (Except CallError Combined)
  /-- The log records, in order. -/
  records : List Log.Record
  /-- The requests, in order. -/
  requests : List Http.Request
  network : Network

/-- The job that the work is run as. It pauses a number of times. -/
def Work.job (work : Work) (pauses : Nat) : Job (Except CallError Combined) :=
  .spawned pauses work.ending

/-- What is made of the job of some work when its handle is awaited. -/
def Job.awaited (job : Job (Except CallError Combined)) : Except CallError Combined :=
  match job.result with
  | .ok result => result
  | .error e => .error (.job e)

/-- The call that runs the work as a job. How often that pauses makes no difference. -/
def Work.call (work : Work) : Call Combined :=
  { result := (work.job 0).awaited
    records := work.records
    requests := work.requests
    network := work.network }

/-- What is made of an answer, if there is one. -/
def Combined.ofAnswer (answer : Option Answer) : Except CallError Combined :=
  match answer with
  | none => .error .unanswered
  | some answer =>
    if answer.isSuccess then
      match Combined.decoder.decodeFront answer.body with
      | .ok combined => .ok combined
      | .error refusal => .error (.undecodable refusal)
    else
      match ServerError.decoder.decode answer.body with
      | .ok e => .error (.rejected answer.status e)
      | .error refusal => .error (.unexplained refusal)

namespace Client

/-- The route of the combined status of a commit. Neither part is looked at. -/
def statusRoute (repository commit : String) : String :=
  "/repos/" ++ repository ++ "/commits/" ++ commit ++ "/status"

/-- The work of a call about a route. -/
def work (client : Client) (network : Network) (route : String) : Work :=
  let asked : Log.Record :=
    { level := .debug
      target := "check_local_status::github::get_combined_status"
      text := "GET " ++ route }
  match Address.parse route.toList with
  | .error e => { ending := .value (.error (.badRoute e)), records := [asked], requests := [], network }
  | .ok address =>
    let exchange := client.exchange network address.target
    let received : List Log.Record :=
      match Combined.ofAnswer exchange.answer with
      | .error _ => []
      | .ok combined =>
        let count := toString combined.statuses.length
        [{ asked with text := "received " ++ count ++ " status entries" }]
    { ending := (client.serve network address.target).awaited.map fun delivered =>
        Combined.ofAnswer (Exchange.ofDelivery network.replies delivered).answer
      records := asked :: received
      requests := exchange.requests
      network := { network with replies := exchange.replies, isServed := exchange.isServed } }

/-- The call about a route. -/
def fetch (client : Client) (network : Network) (route : String) : Call Combined :=
  (client.work network route).call

/-- The combined status of a commit. -/
def combinedStatus (client : Client) (network : Network) (repository commit : String) :
    Call Combined :=
  client.fetch network (statusRoute repository commit)

/-- What the gate decides about a commit. -/
def check (client : Client) (network : Network) (repository commit requiredContext : String) :
    Call Outcome :=
  let call := client.combinedStatus network repository commit
  match call.result with
  | .error e => { call with result := .error e }
  | .ok combined =>
    let outcome := evaluate combined requiredContext
    let decided : Log.Record :=
      { level := .info
        target := "check_local_status::check"
        text := repository ++ "@" ++ commit ++ ": required context " ++
          Text.quote requiredContext ++ " -> " ++ outcome.describe }
    { call with result := .ok outcome, records := call.records ++ [decided] }

end Client

end CommitGate
