import CommitGate.Address.Reference
import CommitGate.CallError
import CommitGate.Client
import CommitGate.Http.Response

/-!
# Exchanges

What a client and the servers that it reaches say to each other for one document: a request, and one
more for each response that says to look elsewhere, up to a bound. The headers are saved from one
request to the next. Those of a body are dropped for good once a response says to see another
document; the credential stays among the saved ones and is left out of a request that goes to another
origin than the one just before it. Nothing is asked for a second time.

A worker of the client hands on its requests. What becomes of a request is known through a channel, so
a worker that crashes over one leaves it unanswered, and is not there for later ones.
-/

namespace CommitGate

open Http (Header Request Response)

/-- What a client finds on its way. -/
structure Web where
  /-- Whether a connection to a server comes about, by the number of times that the exchange may go
  elsewhere afterwards. -/
  connects : (budget : Nat) → Origin → Bool
  /-- The names of hosts that have to be looked up. -/
  names : Host.Names

/-- What a client reaches. -/
structure Network where
  /-- Whether a connection to a server is accepted. -/
  listens : Origin → Bool
  /-- What the servers send, one item for each request, in order. When nothing is left they close
  the connection. -/
  replies : List Bytes
  /-- The names of hosts that have to be looked up. -/
  names : Host.Names := .plain
  /-- What the clock reads, in whole seconds, when the connection for a request starts to wait, by the
  number of times that the exchange may go elsewhere afterwards. -/
  clock : (budget : Nat) → Nat := fun _ => 0
  /-- The greatest number of bytes of a path and query that are joined, if there is one. -/
  joinLimit : Option Nat := none
  /-- Whether the worker of the client is there. -/
  isServed : Bool := true
  /-- What is told about errors of calls. -/
  account : CallError → Account := fun _ => {}

/-- What a client finds on its way in a network. A connection whose task crashes does not come about.
-/
def Client.web (client : Client) (network : Network) : Web where
  connects budget origin := network.listens origin && client.canWait (network.clock budget)
  names := network.names

/-- The response that an exchange ends with. -/
structure Answer where
  status : Nat
  body : Bytes
deriving DecidableEq, Repr

/-- Whether the answer says that the request succeeded. -/
def Answer.isSuccess (a : Answer) : Bool := 200 ≤ a.status && a.status < 300

/-- The answer that a response is, if its body came to an end. -/
def Http.Response.answer? (r : Response) : Option Answer :=
  r.body.map fun body => { status := r.status, body }

/-- Where a response says to look instead, seen from the address that was asked for; see
`Address.follow?`. -/
def Http.Response.destination? (names : Host.Names) (r : Response) (address : Address) :
    Option (Option Address) :=
  if r.isRedirect then (r.location.bind Text.ofBytes?).bind (address.follow? names) else none

/-- The headers that are saved behind a request, from those saved before it. -/
def Http.savedAfter (seesOther : Bool) (saved : List Header) : List Header :=
  if seesOther then without payloadNames saved else saved

/-- The headers of a request, from those saved before it. -/
def Http.sentFrom (carriesToken : Bool) (saved : List Header) : List Header :=
  if carriesToken then saved else without credentialNames saved

/-- What was said. -/
structure Exchange where
  /-- The requests, in order. -/
  requests : List Request := []
  /-- The response that the last request was answered with, if it was. -/
  answer : Option Answer := none
  /-- What the servers have left to send. -/
  replies : List Bytes
  /-- Whether the worker of the client is still there. -/
  isServed : Bool := true

namespace Exchange

/-- The exchange with a request in front. -/
def after (e : Exchange) (request : Request) : Exchange :=
  { e with requests := request :: e.requests }

/-- The greatest number of times that an exchange goes elsewhere. -/
def maxRedirects : Nat := 20

/-- The exchange about an address, with at most `budget` times of going elsewhere. -/
def run (web : Web) :
    (budget : Nat) → (saved : List Header) → (carriesToken : Bool) → Address →
      (replies : List Bytes) → Exchange
  | budget, saved, carriesToken, address, replies =>
    match address.origin? with
    | none => { replies }
    | some origin =>
      if !web.connects budget origin then { replies }
      else
        let request : Request :=
          { origin
            target := address.target
            headers := Http.sentFrom carriesToken saved }
        match replies with
        | [] => { requests := [request], replies := [] }
        | reply :: replies =>
          match Response.read? reply with
          | none => { requests := [request], replies }
          | some response =>
            match budget, response.destination? web.names address with
            | _ + 1, some none => { requests := [request], replies }
            | budget + 1, some (some next) =>
              (run web budget (Http.savedAfter response.isSeeOther saved)
                (next.origin? == some origin) next replies).after request
            | _, _ => { requests := [request], answer := response.answer?, replies }

/-- The exchange that comes of what the worker delivers. One that is not there delivers nothing. -/
def ofDelivery (replies : List Bytes) : Except JobError Exchange → Exchange
  | .ok e => e
  | .error .channelClosed => { replies, isServed := false }

end Exchange

namespace Client

/-- What the worker makes of a request for a route. -/
def serve (client : Client) (network : Network) (route : Target) : Ending Exchange :=
  if network.isServed then
    (client.join network.joinLimit route).map fun address =>
      Exchange.run (client.web network) Exchange.maxRedirects client.headers true address
        network.replies
  else .crash

/-- The exchange of a client about a route. -/
def exchange (client : Client) (network : Network) (route : Target) : Exchange :=
  .ofDelivery network.replies (client.serve network route).delivery

end Client

end CommitGate
