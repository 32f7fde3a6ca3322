import CommitGate.Proofs.Address.Target
import CommitGate.Proofs.Call

/-!
# The commit that is asked for

The route of a commit is put together from two texts that nothing looks at, and then read as a path
and a query. A route that cannot be read is refused, and nothing is sent; what is sent of one that
can be read is all that stands in front of its first `#`. So the commit that is asked for is the one
that is named just if its route has no `#` or cannot be read (`Client.commit_asked_iff`), and with a
`#` it may be another (`Client.other_commit_asked`).
-/

namespace CommitGate

open Http (Request Response Reply)

/-- **The call asks for a route as it is**: what it asks for first is the route, character for
character, and a route that cannot be sent so is refused with nothing sent. -/
structure Call.AsksFor {α : Type} (call : Call α) (route : List Char) : Prop where
  verbatim : ∀ request, call.requests.head? = some request → request.target.toText = route
  refused : ¬ IsSendable route →
    (∃ e, call.result = .error (.badRoute e)) ∧ call.requests = []

namespace Client

variable {client : Client} {network : Network} {repository commit : String}

theorem address_of_no_basePath (hbase : client.basePath = []) (route : Target) :
    (client.address route).target = route := by
  simp [address, hbase]

theorem exists_statusRoute_eq (repository commit : String) :
    ∃ rest, (statusRoute repository commit).toList = '/' :: rest := by
  simp [statusRoute]

theorem hash_mem_statusRoute_iff :
    '#' ∈ (statusRoute repository commit).toList ↔ '#' ∈ repository.toList ∨ '#' ∈ commit.toList := by
  simp [statusRoute]

theorem exists_parse_statusRoute_iff :
    (∃ address, Address.parse (statusRoute repository commit).toList = .ok address) ↔
      IsReadable (statusRoute repository commit).toList := by
  obtain ⟨rest, hroute⟩ := exists_statusRoute_eq repository commit
  rw [hroute]
  exact Address.exists_parse_route_iff

theorem combinedStatus_refused_iff :
    (∃ e, (client.combinedStatus network repository commit).result = .error (.badRoute e)) ↔
      ¬ IsReadable (statusRoute repository commit).toList := by
  rw [combinedStatus_eq_fetch, ← exists_parse_statusRoute_iff]
  simp only [fetch_result_eq_badRoute_iff]
  rcases Address.parse (statusRoute repository commit).toList with e | address
  · simp
  · simp

/-- What is read of the route of a commit is what stands in front of its first `#`. -/
theorem toText_of_parse_statusRoute {address : Address}
    (hp : Address.parse (statusRoute repository commit).toList = .ok address) :
    address.target.toText = beforeHash (statusRoute repository commit).toList := by
  obtain ⟨rest, hroute⟩ := exists_statusRoute_eq repository commit
  rw [hroute] at hp ⊢
  obtain ⟨-, -, -, -, htext⟩ := Address.parse_route_eq_ok_iff.1 hp
  exact htext

/-- **Whether a call sends something**, where it is known what text it asks for. -/
theorem combinedStatus_requests_ne_nil_iff {asked : List Char}
    (hasked : ∀ address, Address.parse (statusRoute repository commit).toList = .ok address →
      (client.address address.target).target.toText = asked) :
    (client.combinedStatus network repository commit).requests ≠ [] ↔
      IsReadable (statusRoute repository commit).toList ∧ client.SetsOut network asked := by
  rw [combinedStatus_eq_fetch, fetch_requests_ne_nil_iff, ← exists_parse_statusRoute_iff]
  constructor
  · rintro ⟨address, hp, hsets⟩
    exact ⟨⟨address, hp⟩, hasked address hp ▸ hsets⟩
  · rintro ⟨⟨address, hp⟩, hsets⟩
    exact ⟨address, hp, (hasked address hp).symm ▸ hsets⟩

theorem refused_of_not_isReadable (h : ¬ IsReadable (statusRoute repository commit).toList) :
    (∃ e, (client.combinedStatus network repository commit).result = .error (.badRoute e)) ∧
      (client.combinedStatus network repository commit).requests = [] := by
  refine ⟨combinedStatus_refused_iff.2 h, ?_⟩
  by_contra hsent
  obtain ⟨address, hp, -⟩ := fetch_requests_ne_nil_iff.1 hsent
  exact h (exists_parse_statusRoute_iff.1 ⟨address, hp⟩)

/-- With nothing in front of it, the route is asked for up to its first `#`. -/
theorem toText_of_first_request (hbase : client.basePath = []) {request : Request}
    (h : (client.combinedStatus network repository commit).requests.head? = some request) :
    request.target.toText = beforeHash (statusRoute repository commit).toList := by
  rw [combinedStatus_eq_fetch] at h
  obtain ⟨address, hp, htarget⟩ := target_of_first_request h
  rw [htarget, address_of_no_basePath hbase, toText_of_parse_statusRoute hp]

theorem asksFor_iff (hbase : client.basePath = []) :
    (client.combinedStatus network repository commit).AsksFor
        (statusRoute repository commit).toList ↔
      (IsReadable (statusRoute repository commit).toList →
        '#' ∉ repository.toList ∧ '#' ∉ commit.toList) := by
  rw [← not_or, ← hash_mem_statusRoute_iff]
  constructor
  · intro h hreadable hhash
    have hunsendable : ¬ IsSendable (statusRoute repository commit).toList := fun hs =>
      (isSendable_iff.1 hs).2 hhash
    exact combinedStatus_refused_iff.1 (h.refused hunsendable).1 hreadable
  · intro h
    by_cases hreadable : IsReadable (statusRoute repository commit).toList
    · have hhash := h hreadable
      refine ⟨fun request hrequest => ?_, fun hunsendable => ?_⟩
      · rw [toText_of_first_request hbase hrequest, beforeHash_eq_self_iff]
        exact hhash
      · exact absurd (isSendable_iff.2 ⟨hreadable, hhash⟩) hunsendable
    · refine ⟨fun request hrequest => ?_, fun _ => refused_of_not_isReadable hreadable⟩
      rw [(refused_of_not_isReadable hreadable).2] at hrequest
      cases hrequest

/-- **Which commit is asked for**, if the base has no path. The call is refused just if the route of
the commit cannot be read, and then it sends nothing; otherwise it asks the server of the base for
what stands in front of the first `#` of the route. So it asks for the commit that is named just if
neither its repository nor itself has a `#`, or the call is refused. -/
theorem commit_asked_iff (client : Client) (network : Network) (repository commit : String)
    (hbase : client.basePath = []) :
    let route := (statusRoute repository commit).toList
    let call := client.combinedStatus network repository commit
    ((∃ e, call.result = .error (.badRoute e)) ↔ ¬ IsReadable route) ∧
      (call.requests ≠ [] ↔ IsReadable route ∧ client.SetsOut network (beforeHash route)) ∧
      (∀ request, call.requests.head? = some request → request.target.toText = beforeHash route) ∧
      (call.AsksFor route ↔
        (IsReadable route → '#' ∉ repository.toList ∧ '#' ∉ commit.toList)) := by
  refine ⟨combinedStatus_refused_iff, combinedStatus_requests_ne_nil_iff fun address hp => ?_, ?_, ?_⟩
  · rw [address_of_no_basePath hbase, toText_of_parse_statusRoute hp]
  · exact fun request hrequest => toText_of_first_request hbase hrequest
  · exact asksFor_iff hbase

/-- A question mark and letters beyond ASCII are asked for as they are. -/
theorem commit_asked_with_query :
    let client : Client :=
      { base := { scheme := some .http, authority := "stub".toList, target := { path := ['/'] } }
        token := none
        timeout := none }
    let network : Network := { listens := fun _ => true, replies := [] }
    let call := client.combinedStatus network "octo/wîdgets" "abc?12?3"
    client.basePath = [] ∧ call.AsksFor (statusRoute "octo/wîdgets" "abc?12?3").toList ∧
      call.requests.map Request.startLine =
        ["GET /repos/octo/wîdgets/commits/abc?12?3/status HTTP/1.1"] := by
  intro client network call
  have hbase : client.basePath = [] := by decide +kernel
  obtain ⟨-, -, -, hasks⟩ := commit_asked_iff client network "octo/wîdgets" "abc?12?3" hbase
  exact ⟨hbase, hasks.2 fun _ => ⟨by decide +kernel, by decide +kernel⟩, by decide +kernel⟩

/-- **Another commit than the one that is named** is asked for, and passes, if the name has a `#` behind
the route of the other. -/
theorem other_commit_asked :
    let client : Client :=
      { base := { scheme := some .http, authority := "stub".toList, target := { path := [] } }
        token := none
        timeout := none }
    let payload := "\x7b\"statuses\":[\x7b\"context\":\"ci/build\",\"state\":\"success\"\x7d]\x7d"
    let reply : Reply := { body := Text.toBytes payload.toList }
    let network : Network := { listens := fun _ => true, replies := [reply.toBytes] }
    let commit := "deadbeef/status#abc123"
    let call := client.combinedStatus network "octo/widgets" commit
    client.basePath = [] ∧
      call.requests.map Request.startLine =
        ["GET /repos/octo/widgets/commits/deadbeef/status HTTP/1.1"] ∧
      (client.check network "octo/widgets" commit "ci/build").result.toOption =
        some (.passed "ci/build") ∧
      ¬ call.AsksFor (statusRoute "octo/widgets" commit).toList := by
  intro client payload reply network commit call
  have hfirst : call.requests.head?.map (fun request => request.target.toText) =
      some "/repos/octo/widgets/commits/deadbeef/status".toList := by decide +kernel
  refine ⟨rfl, by decide +kernel, by decide +kernel, fun hasks => ?_⟩
  obtain ⟨request, hrequest, htext⟩ := Option.map_eq_some_iff.1 hfirst
  have hroute := hasks.verbatim request hrequest
  rw [htext] at hroute
  exact absurd hroute (by decide +kernel)

end Client

end CommitGate
