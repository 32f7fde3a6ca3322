import CommitGate.Proofs.Call

/-!
# How much a call sends

A call follows redirects, at most twenty of them, and sends at most one request more. Each request
takes at most one response, and goes on only from a redirect (`Chain.takes`); nothing is asked for
twice, and earlier calls of the client change nothing of this but what the servers have left to send and
whether the worker is there.

As long as that is there and joins the route, and all connections can wait, the requests are one more
than the redirects that were followed, or as many if no connection can be opened to where the last of
them leads (`Tour`, `Client.requests_follow_tour`).
-/

namespace CommitGate

open Http (Response)

/-! ### Redirects that are followed -/

/-- What the server sends is a response with a status that says to look elsewhere. -/
def Redirects (reply : Bytes) : Prop :=
  ∃ response, Response.read? reply = some response ∧
    response.status ∈ [301, 302, 303, 307, 308]

/-- Only a response with one of the statuses for it is followed. -/
theorem redirects_of_destination {names : Host.Names} {address : Address} {reply : Bytes}
    {response : Response} {next : Option Address} (read : Response.read? reply = some response)
    (leads : response.destination? names address = some next) : Redirects reply := by
  refine ⟨response, read, ?_⟩
  unfold Response.destination? at leads
  split at leads
  · next h => simpa [Response.isRedirect] using h
  · cases leads

/-! ### Responses that are taken -/

/-- **What the requests take of the replies**: one each, except that the last request finds none if
they are used up. All but the last request are answered with a redirect. -/
def Takes (replies : List Bytes) (requests : Nat) (left : List Bytes) : Prop :=
  ∃ taken, replies = taken ++ left ∧
    (taken.length = requests ∨ taken.length + 1 = requests ∧ left = []) ∧
    ∀ reply ∈ taken.take (requests - 1), Redirects reply

section Taking

variable {web : Web} {budget : Nat} {address : Address} {replies left : List Bytes} {reply : Bytes}
  {visits : List Visit} {last : Option Response} {requests : Nat}

theorem takes_none (replies : List Bytes) : Takes replies 0 replies :=
  ⟨[], rfl, .inl rfl, by simp⟩

theorem takes_one (reply : Bytes) (left : List Bytes) : Takes (reply :: left) 1 left :=
  ⟨[reply], rfl, .inl rfl, by simp⟩

/-- **One step**: a request that is answered with a redirect takes it. -/
theorem Takes.hop (h : Takes replies requests left) (redirects : Redirects reply) :
    Takes (reply :: replies) (requests + 1) left := by
  obtain ⟨taken, rfl, hlength, htaken⟩ := h
  refine ⟨reply :: taken, rfl, ?_, ?_⟩
  · rcases hlength with hlength | ⟨hlength, hleft⟩
    · exact .inl (congrArg Nat.succ hlength)
    · exact .inr ⟨congrArg Nat.succ hlength, hleft⟩
  · rw [Nat.add_sub_cancel]
    rcases requests with _ | requests
    · exact List.forall_mem_nil _
    · exact List.forall_mem_cons.2 ⟨redirects, htaken⟩

/-- **A whole chain** takes at most one reply for each of its visits. -/
theorem Chain.takes (h : Chain web budget address replies visits last left) :
    Takes replies visits.length left := by
  induction h with
  | unreachable => exact takes_none _
  | closed => exact ⟨[], rfl, .inr ⟨rfl, rfl⟩, by simp⟩
  | garbled | beyond | final => exact takes_one _ _
  | hop reaches read leads rest ih => exact ih.hop (redirects_of_destination read leads)

/-- A chain has at most one visit more than redirects may be followed. -/
theorem Chain.length_le (h : Chain web budget address replies visits last left) :
    visits.length ≤ budget + 1 := by
  induction h with
  | unreachable => exact Nat.zero_le _
  | closed | garbled | beyond | final => exact Nat.succ_le_succ (Nat.zero_le _)
  | hop reaches read leads rest ih => exact Nat.succ_le_succ ih

end Taking

/-! ### Trails -/

/-- A connection to the server of the address is accepted. -/
def Network.Accepts (network : Network) (address : Address) : Prop :=
  ∃ origin, address.origin? = some origin ∧ network.listens origin = true

/-- **A trail of redirects**: the replies that are followed, from one place to another. A place is an
address, or `none` where no connection can be opened to. -/
inductive Trail (network : Network) :
    Option Address → (followed : List Bytes) → Option Address → Prop
  | stay (place : Option Address) : Trail network place [] place
  | follow {address : Address} {reply : Bytes} {response : Response} {next last : Option Address}
      {followed : List Bytes} (accepted : network.Accepts address)
      (read : Response.read? reply = some response)
      (leads : response.destination? network.names address = some next)
      (rest : Trail network next followed last) :
      Trail network (some address) (reply :: followed) last

/-- A connection can be opened to the place. -/
def IsOpen (network : Network) (place : Option Address) : Prop :=
  ∃ address, place = some address ∧ network.Accepts address

section Trails

variable {network : Network} {place last last' : Option Address} {reply : Bytes}
  {followed front behind : List Bytes}

theorem isOpen_some_iff {address : Address} :
    IsOpen network (some address) ↔ network.Accepts address := by
  simp [IsOpen]

theorem not_isOpen_none : ¬ IsOpen network none := by
  rintro ⟨address, h, -⟩
  cases h

/-- No trail goes on from where no connection can be opened to. -/
theorem Trail.isOpen (h : Trail network place (reply :: followed) last) : IsOpen network place := by
  cases h with
  | follow accepted read leads rest => exact isOpen_some_iff.2 accepted

/-- The same replies lead to the same place. -/
theorem Trail.unique (h : Trail network place followed last)
    (h' : Trail network place followed last') : last = last' := by
  induction h with
  | stay =>
    cases h'
    rfl
  | follow accepted read leads rest ih =>
    cases h' with
    | follow accepted' read' leads' rest' =>
      cases read.symm.trans read'
      cases leads.symm.trans leads'
      exact ih rest'

/-- A trail comes through a place after each of its replies. -/
theorem Trail.exists_of_append (h : Trail network place (front ++ behind) last) :
    ∃ middle, Trail network place front middle ∧ Trail network middle behind last := by
  induction front generalizing place with
  | nil => exact ⟨place, .stay place, h⟩
  | cons reply front ih =>
    cases h with
    | follow accepted read leads rest =>
      obtain ⟨middle, hfront, hbehind⟩ := ih rest
      exact ⟨middle, .follow accepted read leads hfront, hbehind⟩

theorem Trail.exists_first (h : Trail network place (reply :: followed) last) :
    ∃ next, Trail network place [reply] next := by
  have hsplit : reply :: followed = [reply] ++ followed := rfl
  rw [hsplit] at h
  obtain ⟨next, hfirst, -⟩ := h.exists_of_append
  exact ⟨next, hfirst⟩

end Trails

/-! ### Tours -/

/-- **The longest trail** from an address within a budget: it ends where the budget is used up, or
where the next reply is followed no further. -/
structure LongestTrail (network : Network) (budget : Nat) (address : Address)
    (replies followed behind : List Bytes) (place : Option Address) : Prop where
  split : replies = followed ++ behind
  trail : Trail network (some address) followed place
  within : followed.length ≤ budget
  stops : followed.length = budget ∨
    ∀ reply next, behind.head? = some reply → ¬ Trail network place [reply] next

/-- **What is spent on a tour** that starts at an address: how many redirects are followed, how many
requests that takes, and what the servers have left to send. -/
inductive Tour (network : Network) (budget : Nat) (address : Address) (replies : List Bytes) :
    (hops : Nat) → (requests : Nat) → (left : List Bytes) → Prop
  /-- The place where the trail ends is asked as well. -/
  | arrives {followed behind : List Bytes} {place : Option Address}
      (longest : LongestTrail network budget address replies followed behind place)
      (isOpen : IsOpen network place) :
      Tour network budget address replies followed.length (followed.length + 1) behind.tail
  /-- The place where the trail ends cannot be asked. -/
  | strands {followed behind : List Bytes} {place : Option Address}
      (longest : LongestTrail network budget address replies followed behind place)
      (isClosed : ¬ IsOpen network place) :
      Tour network budget address replies followed.length followed.length behind

section Tours

variable {network : Network} {budget : Nat} {address : Address}
  {replies left left' followed followed' behind behind' : List Bytes}
  {place place' : Option Address} {hops hops' requests requests' : Nat}

/-- No trail is longer than one to where no connection can be opened. -/
theorem LongestTrail.of_isClosed (split : replies = followed ++ behind)
    (trail : Trail network (some address) followed place) (within : followed.length ≤ budget)
    (isClosed : ¬ IsOpen network place) :
    LongestTrail network budget address replies followed behind place := by
  refine ⟨split, trail, within, .inr ?_⟩
  intro reply next _ htrail
  exact isClosed htrail.isOpen

theorem LongestTrail.hop {next : Address} {reply : Bytes} {response : Response}
    (h : LongestTrail network budget next replies followed behind place)
    (accepted : network.Accepts address) (read : Response.read? reply = some response)
    (leads : response.destination? network.names address = some (some next)) :
    LongestTrail network (budget + 1) address (reply :: replies) (reply :: followed) behind
      place := by
  obtain ⟨split, trail, within, stops⟩ := h
  refine ⟨by rw [split]; rfl, .follow accepted read leads trail, ?_, ?_⟩
  · exact Nat.succ_le_succ within
  · exact stops.imp_left (congrArg Nat.succ)

theorem LongestTrail.length_le
    (h : LongestTrail network budget address replies followed behind place)
    (h' : LongestTrail network budget address replies followed' behind' place') :
    followed'.length ≤ followed.length := by
  refine Nat.not_lt.1 fun hlt => ?_
  have hsplit : followed' ++ behind' = followed ++ behind := h'.split.symm.trans h.split
  rcases List.append_eq_append_iff.1 hsplit with ⟨more, hmore, -⟩ | ⟨more, hmore, hbehind⟩
  · rw [hmore, List.length_append] at hlt
    omega
  rcases more with _ | ⟨reply, more⟩
  · rw [hmore, List.append_nil] at hlt
    exact Nat.lt_irrefl _ hlt
  -- the other trail goes on with the very reply at which this one stops
  have htrail := h'.trail
  rw [hmore] at htrail
  obtain ⟨middle, hfront, hrest⟩ := htrail.exists_of_append
  rw [hfront.unique h.trail] at hrest
  obtain ⟨next, hfirst⟩ := hrest.exists_first
  rcases h.stops with hfull | hstops
  · have hwithin := h'.within
    omega
  · exact hstops reply next (by rw [hbehind]; rfl) hfirst

/-- There is one longest trail. -/
theorem LongestTrail.unique
    (h : LongestTrail network budget address replies followed behind place)
    (h' : LongestTrail network budget address replies followed' behind' place') :
    followed = followed' ∧ behind = behind' ∧ place = place' := by
  have hlength : followed.length = followed'.length :=
    Nat.le_antisymm (h'.length_le h) (h.length_le h')
  obtain ⟨rfl, rfl⟩ := List.append_inj (h.split.symm.trans h'.split) hlength
  exact ⟨rfl, rfl, h.trail.unique h'.trail⟩

theorem Tour.unique (h : Tour network budget address replies hops requests left)
    (h' : Tour network budget address replies hops' requests' left') :
    hops = hops' ∧ requests = requests' ∧ left = left' := by
  cases h with
  | arrives longest isOpen =>
    cases h' with
    | arrives longest' isOpen' =>
      obtain ⟨rfl, rfl, rfl⟩ := longest.unique longest'
      exact ⟨rfl, rfl, rfl⟩
    | strands longest' isClosed' =>
      obtain ⟨rfl, rfl, rfl⟩ := longest.unique longest'
      exact absurd isOpen isClosed'
  | strands longest isClosed =>
    cases h' with
    | arrives longest' isOpen' =>
      obtain ⟨rfl, rfl, rfl⟩ := longest.unique longest'
      exact absurd isOpen' isClosed
    | strands longest' isClosed' =>
      obtain ⟨rfl, rfl, rfl⟩ := longest.unique longest'
      exact ⟨rfl, rfl, rfl⟩

theorem Tour.within (h : Tour network budget address replies hops requests left) :
    hops ≤ budget := by
  cases h with
  | arrives longest | strands longest => exact longest.within

/-- **One step**: a tour goes on from the address that a redirect leads to, and spends one redirect
and one request more. -/
theorem Tour.hop {next : Address} {reply : Bytes} {response : Response}
    (h : Tour network budget next replies hops requests left)
    (accepted : network.Accepts address) (read : Response.read? reply = some response)
    (leads : response.destination? network.names address = some (some next)) :
    Tour network (budget + 1) address (reply :: replies) (hops + 1) (requests + 1) left := by
  cases h with
  | arrives longest isOpen => exact .arrives (longest.hop accepted read leads) isOpen
  | strands longest isClosed => exact .strands (longest.hop accepted read leads) isClosed

/-- A tour that ends at its first address, with a reply that is not followed. -/
theorem Tour.of_stop (accepted : network.Accepts address)
    (stops : budget = 0 ∨ ∀ reply next, replies.head? = some reply →
      ¬ Trail network (some address) [reply] next) :
    Tour network budget address replies 0 1 replies.tail := by
  have hlongest : LongestTrail network budget address replies [] replies (some address) :=
    ⟨rfl, .stay _, Nat.zero_le _, stops.imp_left Eq.symm⟩
  exact .arrives hlongest (isOpen_some_iff.2 accepted)

/-- Where all connections can wait, an address is reached just if its server accepts. -/
theorem exists_reaches_iff_accepts {client : Client}
    (waits : ∀ budget, client.canWait (network.clock budget) = true) :
    (∃ place, address.Reaches (client.web network) budget place) ↔ network.Accepts address := by
  constructor
  · rintro ⟨place, reaches⟩
    have hconnects := reaches.connects
    simp only [Client.web, Bool.and_eq_true] at hconnects
    exact ⟨place.origin, reaches.origin, hconnects.1⟩
  · rintro ⟨origin, horigin, hlistens⟩
    exact ⟨⟨origin, address.target⟩, horigin, by simp [Client.web, hlistens, waits], rfl⟩

/-- **Along a chain of responses there is a tour** with as many requests as visits, where all
connections can wait. -/
theorem Chain.exists_tour {client : Client}
    (waits : ∀ budget, client.canWait (network.clock budget) = true) {visits : List Visit}
    {last : Option Response}
    (h : Chain (client.web network) budget address replies visits last left) :
    ∃ hops, Tour network budget address replies hops visits.length left := by
  have accepts {budget : Nat} {address : Address} {place : Place}
      (reaches : address.Reaches (client.web network) budget place) : network.Accepts address :=
    (exists_reaches_iff_accepts waits).1 ⟨place, reaches⟩
  induction h with
  | @unreachable budget address replies silent =>
    have haccepts : (∃ place, address.Reaches (client.web network) budget place) ↔
        network.Accepts address := exists_reaches_iff_accepts waits
    have hclosed : ¬ IsOpen network (some address) := by
      rw [isOpen_some_iff, ← haccepts]
      exact not_exists.2 silent
    have hlongest : LongestTrail network budget address replies [] replies (some address) :=
      .of_isClosed rfl (.stay _) (Nat.zero_le _) hclosed
    exact ⟨0, .strands hlongest hclosed⟩
  | closed reaches =>
    refine ⟨0, Tour.of_stop (accepts reaches) (.inr fun reply next h => ?_)⟩
    cases h
  | garbled reaches unread =>
    refine ⟨0, Tour.of_stop (accepts reaches) (.inr fun reply' next h htrail => ?_)⟩
    cases h
    cases htrail with
    | follow _ read => simp [unread] at read
  | @beyond budget address place reply replies response reaches read leads =>
    have hlongest : LongestTrail network (budget + 1) address (reply :: replies) [reply] replies
        none :=
      .of_isClosed rfl (.follow (accepts reaches) read leads (.stay none)) (by simp)
        not_isOpen_none
    exact ⟨1, .strands hlongest not_isOpen_none⟩
  | hop reaches read leads rest ih =>
    obtain ⟨hops, htour⟩ := ih
    exact ⟨hops + 1, htour.hop (accepts reaches) read leads⟩
  | final reaches read stays =>
    refine ⟨0, Tour.of_stop (accepts reaches)
      (stays.imp_right fun hstays reply' next h htrail => ?_)⟩
    cases h
    cases htrail with
    | follow _ read' leads =>
      rw [read, Option.some.injEq] at read'
      simp only [Client.web] at hstays
      simp [← read', hstays] at leads

end Tours

/-! ### Calls, one after another -/

/-- A call that is made: about a commit, and for the gate if a context is required. -/
structure Errand where
  repository : String
  commit : String
  required : Option String := none

namespace Client

/-- The network after a call. -/
def afterErrand (client : Client) (network : Network) (e : Errand) : Network :=
  match e.required with
  | none => (client.combinedStatus network e.repository e.commit).network
  | some required => (client.check network e.repository e.commit required).network

/-- The network after calls, one after another. -/
def afterErrands (client : Client) (network : Network) (errands : List Errand) : Network :=
  errands.foldl client.afterErrand network

/-- **What is spent on a call about a route**: how many redirects are followed, how many requests are
sent, and what the servers have left to send. -/
inductive Spends (client : Client) (network : Network) (route : String) :
    (hops : Nat) → (requests : Nat) → (left : List Bytes) → Prop
  /-- Nothing is asked about a route that is no address. -/
  | badRoute {e : AddressError} (unread : Address.parse route.toList = .error e) :
      client.Spends network route 0 0 network.replies
  | tour {address : Address} {hops requests : Nat} {left : List Bytes}
      (parsed : Address.parse route.toList = .ok address)
      (tour : Tour network Exchange.maxRedirects (client.address address.target) network.replies
        hops requests left) :
      client.Spends network route hops requests left

section Calls

variable {client : Client} {network : Network} {route : String} {hops hops' requests requests' : Nat}
  {left left' : List Bytes}

theorem Spends.unique (h : client.Spends network route hops requests left)
    (h' : client.Spends network route hops' requests' left') :
    hops = hops' ∧ requests = requests' ∧ left = left' := by
  cases h with
  | badRoute unread =>
    cases h' with
    | badRoute => exact ⟨rfl, rfl, rfl⟩
    | tour parsed => cases unread.symm.trans parsed
  | tour parsed tour =>
    cases h' with
    | badRoute unread => cases parsed.symm.trans unread
    | tour parsed' tour' =>
      cases parsed.symm.trans parsed'
      exact tour.unique tour'

/-- At most twenty redirects are followed. -/
theorem Spends.within (h : client.Spends network route hops requests left) : hops ≤ 20 := by
  cases h with
  | badRoute => exact Nat.zero_le _
  | tour _ tour => exact tour.within

/-- **A call takes at most one reply for each of its requests**, and sends at most twenty-one. -/
theorem fetch_takes (client : Client) (network : Network) (route : String) :
    Takes network.replies (client.fetch network route).requests.length
        (client.fetch network route).network.replies ∧
      (client.fetch network route).requests.length ≤ 21 := by
  rcases hp : Address.parse route.toList with e | address
  · rw [fetch_eq_of_bad hp]
    exact ⟨takes_none _, Nat.zero_le _⟩
  obtain ⟨visits, last, left, hm⟩ := client.exists_meets network address.target
  rw [fetch_eq hp hm, length_requestsAlong]
  cases hm with
  | lost => exact ⟨takes_none _, Nat.zero_le _⟩
  | chain served joined along => exact ⟨along.takes, along.length_le⟩

/-- **A call sends what is spent on it**, if its worker is there and joins the route, and all
connections can wait. -/
theorem exists_fetch_spends (served : network.isServed = true)
    (joins : ∀ address, Address.parse route.toList = .ok address →
      client.join network.joinLimit address.target ≠ .crash)
    (waits : ∀ budget, client.canWait (network.clock budget) = true) :
    ∃ hops, client.Spends network route hops (client.fetch network route).requests.length
      (client.fetch network route).network.replies := by
  rcases hp : Address.parse route.toList with e | address
  · rw [fetch_eq_of_bad hp]
    exact ⟨0, .badRoute hp⟩
  obtain ⟨visits, last, left, hm⟩ := client.exists_meets network address.target
  rw [fetch_eq hp hm, length_requestsAlong]
  cases hm with
  | lost crash =>
    rcases serve_eq_crash_iff.1 crash with unserved | crashed
    · cases unserved.symm.trans served
    · exact absurd crashed (joins address hp)
  | chain _ joined along =>
    obtain ⟨hops, htour⟩ := along.exists_tour waits
    rw [← address_of_join joined] at htour
    exact ⟨hops, .tour hp htour⟩

/-- Such a call sends something just if its route is an address and the server of its base listens.
-/
theorem fetch_requests_ne_nil_iff_listens {origin : Origin}
    (server : client.base.origin? = some origin) (served : network.isServed = true)
    (joins : ∀ address, Address.parse route.toList = .ok address →
      client.join network.joinLimit address.target ≠ .crash)
    (waits : ∀ budget, client.canWait (network.clock budget) = true) :
    (client.fetch network route).requests ≠ [] ↔
      (∃ address, Address.parse route.toList = .ok address) ∧ network.listens origin = true := by
  rw [fetch_requests_ne_nil_iff]
  constructor
  · rintro ⟨address, hp, -, -, -, origin', horigin, hlistens⟩
    cases server.symm.trans horigin
    exact ⟨⟨address, hp⟩, hlistens⟩
  · rintro ⟨⟨address, hp⟩, hlistens⟩
    rcases hj : client.join network.joinLimit address.target with joined | _
    · obtain ⟨-, within, -⟩ := join_eq_value_iff.1 hj
      exact ⟨address, hp, served, within, waits _, origin, server, hlistens⟩
    · exact absurd hj (joins address hp)

/-- A call changes nothing of the network but what the servers have left to send, and whether the
worker is there. -/
theorem fetch_network (client : Client) (network : Network) (route : String) :
    (client.fetch network route).network =
      { network with
        replies := (client.fetch network route).network.replies
        isServed := (client.fetch network route).network.isServed } := by
  unfold fetch work
  split <;> rfl

/-- A worker that is there after a call was there before it. -/
theorem isServed_of_fetch (h : (client.fetch network route).network.isServed = true) :
    network.isServed = true := by
  rcases hp : Address.parse route.toList with e | address
  · rw [fetch_eq_of_bad hp] at h
    exact h
  obtain ⟨visits, last, left, hm⟩ := client.exists_meets network address.target
  rw [fetch_eq hp hm] at h
  rcases hgone : network.isServed with _ | _
  · rw [serve_eq_crash_iff.2 (.inl hgone)] at h
    cases h
  · rfl

theorem afterErrand_eq (client : Client) (network : Network) (e : Errand) :
    client.afterErrand network e =
      (client.fetch network (statusRoute e.repository e.commit)).network := by
  unfold afterErrand
  split
  · rw [combinedStatus_eq_fetch]
  · rw [check_network, combinedStatus_eq_fetch]

/-- What the servers have left to send after a call is the end of what they had. -/
theorem exists_afterErrand_eq (client : Client) (network : Network) (e : Errand) :
    ∃ taken left isServed, network.replies = taken ++ left ∧
      client.afterErrand network e = { network with replies := left, isServed } ∧
      (isServed = true → network.isServed = true) := by
  rw [afterErrand_eq]
  obtain ⟨⟨taken, hsplit, -⟩, -⟩ :=
    client.fetch_takes network (statusRoute e.repository e.commit)
  exact ⟨taken, _, _, hsplit, client.fetch_network network _, isServed_of_fetch⟩

theorem exists_afterErrands_eq (client : Client) (network : Network) (errands : List Errand) :
    ∃ taken left isServed, network.replies = taken ++ left ∧
      client.afterErrands network errands = { network with replies := left, isServed } ∧
      (isServed = true → network.isServed = true) := by
  induction errands generalizing network with
  | nil => exact ⟨[], network.replies, network.isServed, rfl, rfl, id⟩
  | cons e errands ih =>
    obtain ⟨taken, left, isServed, hsplit, hafter, hserved⟩ := client.exists_afterErrand_eq network e
    obtain ⟨taken', left', isServed', hsplit', hafter', hserved'⟩ := ih (client.afterErrand network e)
    rw [hafter] at hsplit' hafter' hserved'
    refine ⟨taken ++ taken', left', isServed', ?_, ?_, fun h => hserved (hserved' h)⟩
    · rw [hsplit, List.append_assoc]
      exact congrArg (taken ++ ·) hsplit'
    · unfold afterErrands at hafter' ⊢
      rw [List.foldl_cons, hafter, hafter']

end Calls

/-- **The requests of a call follow one tour**, whatever calls there were before. Those have left to it an
end of what the servers send, and the worker or not, and nothing else. A call sends at most twenty-one
requests; it takes at most one response for each, and goes on only from a redirect. A call for the gate
sends and leaves the same. If the base names a server, the worker is still there and joins the route,
and all connections can wait, then there is one number of redirects that are followed, at most twenty,
and what is sent and left is what is spent on them; something is sent just if the route is an address
and the server of the base listens. -/
theorem requests_follow_tour (client : Client) (network : Network) (errands : List Errand)
    (repository commit required : String) :
    let route := statusRoute repository commit
    let before := client.afterErrands network errands
    let call := client.combinedStatus before repository commit
    (∃ taken left isServed, network.replies = taken ++ left ∧
        before = { network with replies := left, isServed } ∧
        (isServed = true → network.isServed = true)) ∧
      call.requests.length ≤ 21 ∧ Takes before.replies call.requests.length call.network.replies ∧
      (client.check before repository commit required).requests = call.requests ∧
      (client.check before repository commit required).network = call.network ∧
      ∀ origin, client.base.origin? = some origin → before.isServed = true →
        (∀ address, Address.parse route.toList = .ok address →
          client.join network.joinLimit address.target ≠ .crash) →
        (∀ budget, client.canWait (network.clock budget) = true) →
          (∃ hops ≤ 20, ∀ hops' requests left, client.Spends before route hops' requests left ↔
            hops' = hops ∧ requests = call.requests.length ∧ left = call.network.replies) ∧
          (call.requests ≠ [] ↔
            (∃ address, Address.parse route.toList = .ok address) ∧
              network.listens origin = true) := by
  intro route before call
  have hcall : call = client.fetch before route := combinedStatus_eq_fetch ..
  obtain ⟨taken, left, isServed, hsplit, hbefore, hserved⟩ :=
    client.exists_afterErrands_eq network errands
  have hunchanged : before = { network with replies := left, isServed } := hbefore
  obtain ⟨htakes, hmost⟩ := client.fetch_takes before route
  rw [← hcall] at htakes hmost
  refine ⟨⟨taken, left, isServed, hsplit, hbefore, hserved⟩, hmost, htakes, check_requests ..,
    check_network .., fun origin server served joins waits => ⟨?_, ?_⟩⟩
  · have hjoins : ∀ address, Address.parse route.toList = .ok address →
        client.join before.joinLimit address.target ≠ .crash := by
      rw [hunchanged]
      exact joins
    have hwaits : ∀ budget, client.canWait (before.clock budget) = true := by
      rw [hunchanged]
      exact waits
    obtain ⟨hops, hspends⟩ := exists_fetch_spends served hjoins hwaits
    rw [← hcall] at hspends
    refine ⟨hops, hspends.within, fun hops' requests left => ⟨fun h => h.unique hspends, ?_⟩⟩
    rintro ⟨rfl, rfl, rfl⟩
    exact hspends
  · rw [hunchanged] at served
    rw [hcall, hunchanged]
    exact fetch_requests_ne_nil_iff_listens server served joins waits

/-- A client that has made a call before, with a timeout, in front of a server that sends it on to
another one, which fails. -/
theorem requests_follow_tour_of_redirect :
    let client : Client :=
      { base := { scheme := some .http, authority := "stub".toList, target := { path := [] } }
        token := none
        timeout := some 30 }
    let replies : List Http.Reply :=
      [{ body := Text.toBytes "\x7b\"statuses\":[]\x7d".toList },
        { status := "302 Found", location := some "http://other/a", body := [] },
        { status := "500 Internal Server Error", body := [] },
        { body := Text.toBytes "\x7b\"statuses\":[]\x7d".toList }]
    let network : Network :=
      { listens := fun _ => true
        replies := replies.map Http.Reply.toBytes
        clock := fun left => 1000 - left
        joinLimit := some 65534 }
    let errands : List Errand := [{ repository := "octo/widgets", commit := "abc123" }]
    let call := client.combinedStatus (client.afterErrands network errands) "octo/widgets" "abc123"
    call.requests.length = 2 ∧ call.network.replies.length = 1 ∧
      ∃ hops ≤ 20, client.Spends (client.afterErrands network errands)
        (statusRoute "octo/widgets" "abc123") hops 2 call.network.replies := by
  intro client replies network errands call
  have htwo : call.requests.length = 2 := by decide +kernel
  have hserver : client.base.origin? = some { isEncrypted := false, host := "stub", port := 80 } := by
    decide +kernel
  have hjoins : ∀ address, Address.parse (statusRoute "octo/widgets" "abc123").toList =
      .ok address → client.join network.joinLimit address.target ≠ .crash := by
    intro address hp
    obtain rfl : _ = address := Except.ok.inj hp
    decide +kernel
  have hwaits : ∀ left, client.canWait (network.clock left) = true := by
    intro left
    have hbound : 1000 - left + 30 < clockBound := Nat.lt_of_le_of_lt (by omega) (by decide : 1030 < _)
    simp [canWait, deadline, client, network, hbound, Ending.isValue]
  obtain ⟨-, -, -, -, -, htour⟩ := requests_follow_tour client network errands
    "octo/widgets" "abc123" "ci/build"
  obtain ⟨⟨hops, hfew, hspends⟩, -⟩ := htour _ hserver (by decide +kernel) hjoins hwaits
  exact ⟨htwo, by decide +kernel, hops, hfew, (hspends _ _ _).2 ⟨rfl, htwo.symm, rfl⟩⟩

/-- **Calls that ask fewer places than they come to**: about a route with a blank in it, to a server
that does not listen, and behind a redirect to where no connection can be opened. -/
theorem requests_of_closed_places :
    let client : Client :=
      { base := { scheme := some .http, authority := "stub".toList, target := { path := [] } }
        token := none
        timeout := none }
    let reply : Http.Reply := { status := "302 Found", location := some "ftp://stub/a", body := [] }
    let network : Network := { listens := fun _ => true, replies := [reply.toBytes] }
    let fallsShort (network : Network) (repository : String) : Prop :=
      ∃ hops requests left, client.Spends network (statusRoute repository "abc123") hops requests
          left ∧
        (client.combinedStatus network repository "abc123").requests.length = requests ∧
        requests ≠ 1 + hops
    build none { baseAddress := some "http://stub" } = .ok client ∧
      fallsShort network "octo widgets" ∧
      fallsShort { network with listens := fun _ => false } "octo/widgets" ∧
      fallsShort network "octo/widgets" := by
  intro client reply network fallsShort
  have hroute : Address.parse (statusRoute "octo/widgets" "abc123").toList =
      .ok { scheme := none, authority := []
            target := { path := "/repos/octo/widgets/commits/abc123/status".toList } } := rfl
  have hbad : Address.parse (statusRoute "octo widgets" "abc123").toList =
      .error .invalidCharacter := rfl
  refine ⟨rfl, ⟨0, 0, _, .badRoute hbad, ?_⟩, ?_, ?_⟩
  · decide +kernel
  · -- no server listens
    let silent : Network := { network with listens := fun _ => false }
    have hclosed (place : Option Address) : ¬ IsOpen silent place := by
      rintro ⟨address, -, origin, -, hlistens⟩
      cases hlistens
    have hlongest (address : Address) :
        LongestTrail silent 20 address silent.replies [] silent.replies (some address) :=
      .of_isClosed rfl (.stay _) (Nat.zero_le _) (hclosed _)
    exact ⟨0, 0, _, .tour hroute (.strands (hlongest _) (hclosed _)), by decide +kernel⟩
  · -- the redirect leads to no server
    let address : Address :=
      { client.base with target := { path := "/repos/octo/widgets/commits/abc123/status".toList } }
    have haccepted : network.Accepts address :=
      ⟨{ isEncrypted := false, host := "stub", port := 80 }, by decide +kernel, rfl⟩
    have hread : Http.Response.read? reply.toBytes =
        some { status := 302, location := some (Text.toBytes "ftp://stub/a".toList)
               body := some [] } := by decide +kernel
    have hleads : Http.Response.destination? network.names
        { status := 302, location := some (Text.toBytes "ftp://stub/a".toList), body := some [] }
        address = some none := by decide +kernel
    have hlongest : LongestTrail network 20 address network.replies [reply.toBytes] [] none :=
      .of_isClosed rfl (.follow haccepted hread hleads (.stay none)) (by decide) not_isOpen_none
    exact ⟨1, 1, _, .tour hroute (.strands hlongest not_isOpen_none), by decide +kernel⟩

end Client

end CommitGate
