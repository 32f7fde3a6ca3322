import CommitGate.Exchange

/-!
# Chains of responses

What a client meets when it asks for an address, as a relation that knows nothing of the headers:

* `Chain web budget address replies visits last left` — on the way through `web`, the servers, sending
  `replies`, lead from `address` through `visits` to `last`, the first response that is not followed,
  if there is one, and keep `left`;
* `requestsAlong` — the requests on the visits, each from the headers that are saved up to it;
* `Chain.run_eq` and `exists_chain` — an exchange is the requests along the one chain that there is,
  answered with its last response. So what is asked, and what is answered, depends on the address and
  on the servers, and not on the headers;
* `headers_along` — what dropping headers keeps is kept by every request along a chain;
* `Client.Meets` — what a client meets: the chain from the address that its worker joins, or nothing if
  the worker crashes. Another client meets the same if it joins the same and the chain is one for it
  (`Client.Meets.transfer`).
-/

namespace CommitGate

open Http (Header Request Response)

/-- A place that can be asked: a server and the document there. -/
structure Place where
  origin : Origin
  target : Target
deriving DecidableEq, Repr

/-- A place that is asked, and whether the response that is followed from there says to see another
document. -/
structure Visit extends Place where
  seesOther : Bool
deriving DecidableEq, Repr

/-- Asking for `address` comes to a place: it names a server, and a connection comes about. -/
structure Address.Reaches (web : Web) (budget : Nat) (address : Address) (place : Place) : Prop where
  origin : address.origin? = some place.origin
  connects : web.connects budget place.origin = true
  target : place.target = address.target

/-- **The chain of responses from an address on**, with at most `budget` times of going elsewhere. -/
inductive Chain (web : Web) : (budget : Nat) → Address → (replies : List Bytes) →
    (visits : List Visit) → (last : Option Response) → (left : List Bytes) → Prop
  /-- No connection is made, so nothing is asked. -/
  | unreachable {budget : Nat} {address : Address} {replies : List Bytes}
      (silent : ∀ place, ¬ address.Reaches web budget place) :
      Chain web budget address replies [] none replies
  /-- The connection is closed without a response. -/
  | closed {budget : Nat} {address : Address} {place : Place}
      (reaches : address.Reaches web budget place) :
      Chain web budget address [] [⟨place, false⟩] none []
  /-- The response has no whole head. -/
  | garbled {budget : Nat} {address : Address} {place : Place} {reply : Bytes}
      {replies : List Bytes} (reaches : address.Reaches web budget place)
      (unread : Response.read? reply = none) :
      Chain web budget address (reply :: replies) [⟨place, false⟩] none replies
  /-- The response says to look where no connection can be opened to. -/
  | beyond {budget : Nat} {address : Address} {place : Place} {reply : Bytes}
      {replies : List Bytes} {response : Response} (reaches : address.Reaches web (budget + 1) place)
      (read : Response.read? reply = some response)
      (leads : response.destination? web.names address = some none) :
      Chain web (budget + 1) address (reply :: replies) [⟨place, false⟩] none replies
  /-- The response is followed to another address. -/
  | hop {budget : Nat} {address next : Address} {place : Place} {reply : Bytes}
      {replies left : List Bytes} {response : Response} {visits : List Visit}
      {last : Option Response} (reaches : address.Reaches web (budget + 1) place)
      (read : Response.read? reply = some response)
      (leads : response.destination? web.names address = some (some next))
      (rest : Chain web budget next replies visits last left) :
      Chain web (budget + 1) address (reply :: replies) (⟨place, response.isSeeOther⟩ :: visits) last
        left
  /-- The response is not followed: it says of nowhere else to look, or the budget is used up. -/
  | final {budget : Nat} {address : Address} {place : Place} {reply : Bytes}
      {replies : List Bytes} {response : Response} (reaches : address.Reaches web budget place)
      (read : Response.read? reply = some response)
      (stays : budget = 0 ∨ response.destination? web.names address = none) :
      Chain web budget address (reply :: replies) [⟨place, false⟩] (some response) replies

/-! ### Headers that are dropped -/

/-- Dropping headers drops all values of the names that are listed, and none of others. -/
theorem Http.valuesOf_without (names : List String) (name : String) (headers : List Header) :
    Http.valuesOf name (Http.without names headers) =
      if names.contains name then [] else Http.valuesOf name headers := by
  unfold Http.valuesOf Http.without
  rw [List.filter_filter]
  split
  · next hlisted =>
    rw [List.map_eq_nil_iff, List.filter_eq_nil_iff]
    intro h _ hkept
    simp only [Bool.and_eq_true, beq_iff_eq, Bool.not_eq_true'] at hkept
    rw [hkept.1, hlisted] at hkept
    cases hkept.2
  · next hother =>
    refine congrArg _ (List.filter_congr fun h _ => ?_)
    rw [Bool.not_eq_true] at hother
    by_cases hname : h.name = name
    · rw [hname, hother, Bool.not_false, Bool.and_true]
    · simp [hname]

/-! ### The requests on the visits -/

/-- The requests on visits, from the headers that are saved. All but the first carry the credential if
they go to the server of the one just before; the first as it is told. -/
def requestsAlong : (saved : List Header) → (carriesToken : Bool) → List Visit → List Request
  | _, _, [] => []
  | saved, carriesToken, visit :: visits =>
    { origin := visit.origin
      target := visit.target
      headers := Http.sentFrom carriesToken saved } ::
      requestsAlong (Http.savedAfter visit.seesOther saved)
        (visits.head?.map (fun next => next.origin) == some visit.origin) visits

/-- **What dropping headers keeps is kept along visits**: if it holds of the saved headers, and still
holds without those of a body and without the credential, it holds of the headers of every request. -/
theorem headers_along {P : List Header → Prop}
    (payload : ∀ headers, P headers → P (Http.without Http.payloadNames headers))
    (credential : ∀ headers, P headers → P (Http.without Http.credentialNames headers))
    {saved : List Header} (start : P saved) (carriesToken : Bool) (visits : List Visit) :
    ∀ r ∈ requestsAlong saved carriesToken visits, P r.headers := by
  induction visits generalizing saved carriesToken with
  | nil => exact List.forall_mem_nil _
  | cons visit visits ih =>
    have hsent : P (Http.sentFrom carriesToken saved) := by
      cases carriesToken
      · exact credential saved start
      · exact start
    have hsaved : P (Http.savedAfter visit.seesOther saved) := by
      cases visit.seesOther
      · exact start
      · exact payload saved start
    exact List.forall_mem_cons.2 ⟨hsent, ih hsaved _⟩

/-- Each request goes where one of the visits does. -/
theorem exists_visit_of_mem {saved : List Header} {carriesToken : Bool} {visits : List Visit}
    {request : Request} (h : request ∈ requestsAlong saved carriesToken visits) :
    ∃ visit ∈ visits, request.origin = visit.origin ∧ request.target = visit.target := by
  induction visits generalizing saved carriesToken with
  | nil => cases h
  | cons visit visits ih =>
    unfold requestsAlong at h
    rcases List.mem_cons.1 h with rfl | h
    · exact ⟨visit, List.mem_cons_self, rfl, rfl⟩
    · obtain ⟨visit', hmem, hrequest⟩ := ih h
      exact ⟨visit', List.mem_cons_of_mem _ hmem, hrequest⟩

@[simp] theorem length_requestsAlong (saved : List Header) (carriesToken : Bool)
    (visits : List Visit) : (requestsAlong saved carriesToken visits).length = visits.length := by
  induction visits generalizing saved carriesToken with
  | nil => rfl
  | cons visit visits ih => simp [requestsAlong, ih]

section Run

variable {web : Web} {budget : Nat} {address : Address} {replies left : List Bytes}
  {visits : List Visit} {last : Option Response}

/-- A chain starts at the place that asking for its address comes to. -/
theorem Chain.head_reaches (h : Chain web budget address replies visits last left) {visit : Visit}
    (hv : visits.head? = some visit) : address.Reaches web budget visit.toPlace := by
  cases h with
  | unreachable silent => simp at hv
  | closed reaches | garbled reaches | beyond reaches | hop reaches | final reaches =>
    simp only [List.head?_cons, Option.some.injEq] at hv
    exact hv ▸ reaches

/-- A chain has a visit just if asking for its address comes to a place. -/
theorem Chain.visits_ne_nil_iff (h : Chain web budget address replies visits last left) :
    visits ≠ [] ↔ ∃ place, address.Reaches web budget place := by
  cases h with
  | unreachable silent => simpa using silent
  | closed reaches | garbled reaches | beyond reaches | hop reaches | final reaches =>
    exact ⟨fun _ => ⟨_, reaches⟩, fun _ => List.cons_ne_nil _ _⟩

/-- A chain without visits has no last response. -/
theorem Chain.last_of_no_visits (h : Chain web budget address replies visits last left)
    (hvisits : visits = []) : last = none := by
  cases h with
  | unreachable silent => rfl
  | closed | garbled | beyond | hop | final => cases hvisits

/-- Whether the first visit goes to a server is whether its address does, as long as there is one. -/
theorem Chain.requestsAlong_origin (h : Chain web budget address replies visits last left)
    (saved : List Header) (origin : Origin) :
    requestsAlong saved (address.origin? == some origin) visits =
      requestsAlong saved (visits.head?.map (fun next => next.origin) == some origin) visits := by
  cases visits with
  | nil => rfl
  | cons visit visits =>
    have hv : (visit :: visits).head? = some visit := rfl
    rw [(h.head_reaches hv).origin]
    rfl

/-- **An exchange is the requests along the chain, answered with its last response.** -/
theorem Chain.run_eq (h : Chain web budget address replies visits last left) (saved : List Header)
    (carriesToken : Bool) :
    Exchange.run web budget saved carriesToken address replies =
      { requests := requestsAlong saved carriesToken visits
        answer := last.bind Response.answer?
        replies := left } := by
  induction h generalizing saved carriesToken with
  | @unreachable budget address replies silent =>
    unfold Exchange.run
    split
    · rfl
    · next origin ho =>
      have hl : web.connects budget origin = false :=
        Bool.eq_false_iff.2 fun hl => silent ⟨origin, address.target⟩ ⟨ho, hl, rfl⟩
      simp [hl, requestsAlong]
  | closed reaches =>
    unfold Exchange.run
    simp [reaches.origin, reaches.connects, reaches.target, requestsAlong]
  | garbled reaches unread =>
    unfold Exchange.run
    simp [reaches.origin, reaches.connects, reaches.target, unread, requestsAlong]
  | beyond reaches read leads =>
    unfold Exchange.run
    simp [reaches.origin, reaches.connects, reaches.target, read, leads, requestsAlong]
  | hop reaches read leads rest ih =>
    unfold Exchange.run
    simp only [reaches.origin, reaches.connects, read, leads, ih, Exchange.after, requestsAlong,
      reaches.target, rest.requestsAlong_origin]
    rfl
  | @final budget address place reply replies response reaches read stays =>
    unfold Exchange.run
    rcases budget with _ | budget
    · simp [reaches.origin, reaches.connects, reaches.target, read, requestsAlong]
    · have hd : response.destination? web.names address = none := by simpa using stays
      simp [reaches.origin, reaches.connects, reaches.target, read, hd, requestsAlong]

/-- There is a chain from every address, whatever the servers send. -/
theorem exists_chain (web : Web) (budget : Nat) (address : Address) (replies : List Bytes) :
    ∃ visits last left, Chain web budget address replies visits last left := by
  induction replies generalizing budget address with
  | nil =>
    by_cases hr : ∃ place, address.Reaches web budget place
    · obtain ⟨place, hr⟩ := hr
      exact ⟨_, _, _, .closed hr⟩
    · exact ⟨_, _, _, .unreachable (not_exists.1 hr)⟩
  | cons reply replies ih =>
    by_cases hr : ∃ place, address.Reaches web budget place
    · obtain ⟨place, hr⟩ := hr
      rcases hread : Response.read? reply with _ | response
      · exact ⟨_, _, _, .garbled hr hread⟩
      rcases budget with _ | budget
      · exact ⟨_, _, _, .final hr hread (.inl rfl)⟩
      rcases hd : response.destination? web.names address with _ | _ | next
      · exact ⟨_, _, _, .final hr hread (.inr hd)⟩
      · exact ⟨_, _, _, .beyond hr hread hd⟩
      · obtain ⟨visits, last, left, hc⟩ := ih budget next
        exact ⟨_, _, _, .hop hr hread hd hc⟩
    · exact ⟨_, _, _, .unreachable (not_exists.1 hr)⟩

end Run

/-! ### What a client meets -/

section Joining

variable {client : Client} {limit : Option Nat} {route : Target} {address : Address}

/-- **The worker joins a route** just if its base has a scheme along with an authority, and path and
query are within the limit. -/
theorem Client.join_eq_value_iff :
    client.join limit route = .value address ↔
      ¬ (client.base.scheme = none ∧ client.base.authority ≠ []) ∧
        (∀ n, limit = some n → Text.byteLength (client.address route).target.toText ≤ n) ∧
        client.address route = address := by
  have hlimit : limit.any (fun n => n < Text.byteLength (client.address route).target.toText) =
      true ↔ ¬ ∀ n, limit = some n → Text.byteLength (client.address route).target.toText ≤ n := by
    rcases limit with _ | n
    · simp
    · simp
  unfold Client.join
  simp only [hlimit]
  split
  · next hcrash => simp [hcrash]
  next hbase =>
  split
  · next hlong => simp [hlong]
  · next hfits =>
    rw [and_iff_right hbase, and_iff_right (Classical.not_not.1 hfits), Ending.value.injEq]

/-- It crashes over a route just if it cannot join it. -/
theorem Client.join_eq_crash_iff :
    client.join limit route = .crash ↔
      (client.base.scheme = none ∧ client.base.authority ≠ []) ∨
        ∃ n, limit = some n ∧ n < Text.byteLength (client.address route).target.toText := by
  have hlimit : limit.any (fun n => n < Text.byteLength (client.address route).target.toText) =
      true ↔ ∃ n, limit = some n ∧ n < Text.byteLength (client.address route).target.toText := by
    rcases limit with _ | n
    · simp
    · simp
  unfold Client.join
  simp only [hlimit]
  split
  · next hcrash => simp [hcrash]
  next hbase =>
  split
  · next hlong => simp [hlong]
  · next hfits => simp only [hbase, hfits, or_self, reduceCtorEq]

/-- An address that is joined is that of the route. -/
theorem Client.address_of_join (h : client.join limit route = .value address) :
    client.address route = address := (join_eq_value_iff.1 h).2.2

end Joining

/-- **What a client meets** that asks for a route: nothing if its worker is not there or crashes over
it, and otherwise the chain from the address that the worker puts together. -/
inductive Client.Meets (client : Client) (network : Network) (route : Target) :
    (visits : List Visit) → (last : Option Response) → (left : List Bytes) → Prop
  /-- The request gets lost. -/
  | lost (crash : client.serve network route = .crash) :
      client.Meets network route [] none network.replies
  /-- The chain is followed. -/
  | chain {address : Address} {visits : List Visit} {last : Option Response} {left : List Bytes}
      (served : network.isServed = true)
      (joined : client.join network.joinLimit route = .value address)
      (along : Chain (client.web network) Exchange.maxRedirects address network.replies visits last
        left) : client.Meets network route visits last left

section Meets

variable {client client' : Client} {network network' : Network} {route : Target} {address : Address}
  {visits : List Visit} {last : Option Response} {left : List Bytes}

theorem Client.serve_of_join (served : network.isServed = true)
    (joined : client.join network.joinLimit route = .value address) :
    client.serve network route =
      .value (Exchange.run (client.web network) Exchange.maxRedirects client.headers true address
        network.replies) := by
  unfold serve
  rw [if_pos served, joined]
  rfl

/-- **The worker crashes**, or is not there, just if it is not there or cannot join the route. -/
theorem Client.serve_eq_crash_iff :
    client.serve network route = .crash ↔
      network.isServed = false ∨ client.join network.joinLimit route = .crash := by
  unfold serve
  rcases network.isServed with _ | _
  · simp
  · rcases client.join network.joinLimit route with address | _
    · simp [Ending.map]
    · simp [Ending.map]

@[simp] theorem Ending.isValue_map {α β : Type} (f : α → β) (e : Ending α) :
    (e.map f).isValue = e.isValue := by
  cases e <;> rfl

theorem Client.isValue_serve (client : Client) (network : Network) (route : Target) :
    (client.serve network route).isValue =
      (network.isServed && (client.join network.joinLimit route).isValue) := by
  unfold serve
  rcases network.isServed with _ | _
  · rfl
  · rw [if_pos rfl, Ending.isValue_map, Bool.true_and]

theorem Client.exists_meets (client : Client) (network : Network) (route : Target) :
    ∃ visits last left, client.Meets network route visits last left := by
  rcases hcrash : client.serve network route with exchange | _
  · rcases hs : network.isServed with _ | _
    · cases (serve_eq_crash_iff.2 (.inl hs)).symm.trans hcrash
    rcases hj : client.join network.joinLimit route with address | _
    · obtain ⟨visits, last, left, h⟩ :=
        exists_chain (client.web network) Exchange.maxRedirects address network.replies
      exact ⟨_, _, _, .chain hs hj h⟩
    · cases (serve_eq_crash_iff.2 (.inr hj)).symm.trans hcrash
  · exact ⟨_, _, _, .lost hcrash⟩

/-- Whether the worker crashes depends on whether it is there and on what it joins, and on nothing else.
-/
theorem Client.isValue_serve_congr (served : network'.isServed = network.isServed)
    (joined : client'.join network'.joinLimit route = client.join network.joinLimit route) :
    (client'.serve network' route).isValue = (client.serve network route).isValue := by
  rw [isValue_serve, isValue_serve, served, joined]

/-- **What a client meets another one meets too**, perhaps in another network, if the replies and what the
workers join are the same, and the chain is one for the other client as well. -/
theorem Client.Meets.transfer (h : client.Meets network route visits last left)
    (replies : network'.replies = network.replies) (served : network'.isServed = network.isServed)
    (joined : client'.join network'.joinLimit route = client.join network.joinLimit route)
    (along : ∀ address,
      Chain (client.web network) Exchange.maxRedirects address network.replies visits last left →
        Chain (client'.web network') Exchange.maxRedirects address network'.replies visits last left) :
    client'.Meets network' route visits last left := by
  cases h with
  | lost crash =>
    rw [← replies]
    refine .lost (serve_eq_crash_iff.2 ?_)
    rw [served, joined]
    exact serve_eq_crash_iff.1 crash
  | chain served' joined' along' =>
    exact .chain (served.trans served') (joined.trans joined') (along _ along')

/-- **The exchange of a client is what it meets.** Its worker is still there just if it did not crash.
-/
theorem Client.Meets.exchange_eq (h : client.Meets network route visits last left) :
    client.exchange network route =
      { requests := requestsAlong client.headers true visits
        answer := last.bind Response.answer?
        replies := left
        isServed := (client.serve network route).isValue } := by
  unfold Client.exchange
  cases h with
  | lost crash =>
    rw [crash]
    rfl
  | chain served joined along =>
    rw [Client.serve_of_join served joined, along.run_eq]
    rfl

/-- The first visit goes to the server of the client's base. -/
theorem Client.Meets.head_origin (h : client.Meets network route visits last left) {visit : Visit}
    (hv : visits.head? = some visit) : client.base.origin? = some visit.origin := by
  cases h with
  | lost => simp at hv
  | chain served joined along =>
    have hreaches := along.head_reaches hv
    rw [← Client.address_of_join joined] at hreaches
    exact hreaches.origin

end Meets

end CommitGate
