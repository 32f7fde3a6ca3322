import CommitGate.Proofs.Client
import CommitGate.Proofs.Exchange.Credential

/-!
# What every request carries

The headers of a request are what is left of those saved from the one before, and some of them are
dropped on the way: those of a body for good once a response says to see another document, and the
credential where a request leaves its server. Three of them are never dropped. So each request asks by
the one method for the one media type, in the one version of the interface, and names the one agent,
whatever redirects are followed (`Client.requests_pinned`): dropping others keeps that
(`Http.ArePinned.without`), so all headers along a chain have it (`Http.ArePinned.along`). The first
request of a call always has the credential, and a client without one never sends any.
-/

namespace CommitGate

open Http (Request Header)

/-! ### Headers that stay -/

/-- The names of the headers that stay. -/
def Http.pinnedNames : List String := ["accept", "x-github-api-version", "user-agent"]

/-- **The headers are pinned**: they have one value each for the media type, the version of the
interface and the agent. The names of all are in lower case, so none counts apart. -/
structure Http.ArePinned (headers : List Header) : Prop where
  accept : Http.valuesOf "accept" headers = ["application/vnd.github+json"]
  version : Http.valuesOf "x-github-api-version" headers = ["2022-11-28"]
  agent : Http.valuesOf "user-agent" headers = ["octocrab"]
  names : ∀ h ∈ headers, h.name.toList.map Char.toLower = h.name.toList

section Pinned

variable {headers : List Header} {names : List String}

/-- **One step**: dropping other headers keeps the pinned ones. -/
theorem Http.ArePinned.without (h : Http.ArePinned headers)
    (hother : ∀ name ∈ Http.pinnedNames, names.contains name = false) :
    Http.ArePinned (Http.without names headers) := by
  have hkept {name : String} (hname : name ∈ Http.pinnedNames) :
      Http.valuesOf name (Http.without names headers) = Http.valuesOf name headers := by
    rw [Http.valuesOf_without, hother name hname]
    rfl
  refine ⟨?_, ?_, ?_, fun header hheader => ?_⟩
  · rw [hkept (by simp [Http.pinnedNames])]
    exact h.accept
  · rw [hkept (by simp [Http.pinnedNames])]
    exact h.version
  · rw [hkept (by simp [Http.pinnedNames])]
    exact h.agent
  · exact h.names header (List.mem_filter.1 hheader).1

/-- **A whole chain**: the headers of all requests are pinned if those are that the chain starts
with. -/
theorem Http.ArePinned.along (h : Http.ArePinned headers) (carriesToken : Bool)
    (visits : List Visit) :
    ∀ r ∈ requestsAlong headers carriesToken visits, Http.ArePinned r.headers :=
  headers_along (fun _ hsaved => hsaved.without (by decide))
    (fun _ hsaved => hsaved.without (by decide)) h carriesToken visits

/-- Along a chain there is no credential if none is saved at its start. -/
theorem no_credential_along (h : Http.valuesOf "authorization" headers = []) (carriesToken : Bool)
    (visits : List Visit) :
    ∀ r ∈ requestsAlong headers carriesToken visits, r.values "authorization" = [] := by
  have hwithout (names : List String) (headers : List Header)
      (hnone : Http.valuesOf "authorization" headers = []) :
      Http.valuesOf "authorization" (Http.without names headers) = [] := by
    rw [Http.valuesOf_without, hnone, ite_self]
  exact headers_along (hwithout _) (hwithout _) h carriesToken visits

end Pinned

/-! ### Requests -/

/-- The method of a request, in front of the first blank of its line. -/
def Http.Request.method (r : Request) : List Char := r.startLine.toList.takeWhile (· != ' ')

/-- **The request is pinned**: its method, and the headers that stay. -/
structure Http.Request.IsPinned (r : Request) : Prop where
  method : r.method = "GET".toList
  headers : Http.ArePinned r.headers

theorem Http.Request.method_eq (r : Request) : r.method = "GET".toList := by
  have hline : r.startLine.toList =
      "GET".toList ++ ' ' :: (r.target.toText ++ " HTTP/1.1".toList) := by
    simp [startLine]
  rw [method, hline]
  rfl

namespace Client

variable {client : Client} {network : Network} {route : String} {request : Request}

/-- A header of a client is one of the four fixed ones, or carries the credential. -/
theorem mem_headers_iff {h : Header} :
    h ∈ client.headers ↔
      h ∈ [⟨"accept", mediaType⟩, ⟨"content-length", "0"⟩, ⟨"user-agent", "octocrab"⟩,
          ⟨"x-github-api-version", interfaceVersion⟩] ∨
        ∃ token, client.token = some token ∧
          h = ⟨"authorization", "Bearer " ++ token.expose⟩ := by
  have hauthorization :
      (h ∈ client.token.toList.map fun token => Header.mk "authorization" ("Bearer " ++ token.expose)) ↔
        ∃ token, client.token = some token ∧ h = ⟨"authorization", "Bearer " ++ token.expose⟩ := by
    simp [eq_comm]
  rw [headers, List.mem_append, List.mem_append, hauthorization]
  simp only [List.mem_cons, List.not_mem_nil, or_false]
  -- the credential stands behind the first of the four
  rw [or_assoc, or_assoc, or_comm (a := ∃ token, _), or_assoc, or_assoc]

/-- What a call starts with is pinned. -/
theorem arePinned_headers (client : Client) : Http.ArePinned client.headers := by
  have hvalues {name : String} (hname : ("authorization" == name) = false) :
      Http.valuesOf name client.headers =
        Http.valuesOf name (Client.headers { client with token := none }) := by
    rcases ht : client.token with _ | token
    · simp [headers, Http.valuesOf, ht]
    · simp [headers, Http.valuesOf, ht, List.filter_cons, hname]
  refine ⟨?_, ?_, ?_, fun h hh => ?_⟩
  · rw [hvalues (by decide)]
    rfl
  · rw [hvalues (by decide)]
    rfl
  · rw [hvalues (by decide)]
    rfl
  · rcases mem_headers_iff.1 hh with hfixed | ⟨token, -, rfl⟩
    · simp only [List.mem_cons, List.not_mem_nil, or_false] at hfixed
      rcases hfixed with rfl | rfl | rfl | rfl <;> decide
    · exact (by decide : "authorization".toList.map Char.toLower = "authorization".toList)

/-- The first request of a call has all headers of the client. -/
theorem headers_of_first_request
    (h : (client.fetch network route).requests.head? = some request) :
    request.headers = client.headers := by
  obtain ⟨visits, hvisits, -⟩ := client.exists_fetch_requests_eq network route
  rw [hvisits] at h
  rcases visits with _ | ⟨visit, visits⟩
  · cases h
  · cases h
    rfl

/-- **Every request of a call is pinned**, whatever redirects are followed. The first one carries the
credential that the client was set up with, once; without a credential no request has a header for
one. -/
theorem requests_pinned {token : Option Secret} {options : ConnectionOptions}
    (built : build token options = .ok client) (network : Network)
    (repository commit required : String) :
    let call := client.combinedStatus network repository commit
    (∀ r ∈ call.requests, r.IsPinned) ∧
      (∀ t, token = some t → ∀ r, call.requests.head? = some r →
        r.values "authorization" = ["Bearer " ++ t.expose]) ∧
      (token = none → ∀ r ∈ call.requests, r.values "authorization" = []) ∧
      (client.check network repository commit required).requests = call.requests := by
  intro call
  have htoken : client.token = token := (build_eq_ok_iff.1 built).2.2.1
  obtain ⟨visits, hvisits, -⟩ :=
    client.exists_fetch_requests_eq network (statusRoute repository commit)
  have hcall : call.requests = requestsAlong client.headers true visits := hvisits
  refine ⟨fun r hr => ?_, fun t ht r hr => ?_, fun hnone r hr => ?_, check_requests ..⟩
  · rw [hcall] at hr
    exact ⟨r.method_eq, client.arePinned_headers.along true visits r hr⟩
  · have hfirst : r.headers = client.headers := headers_of_first_request hr
    rw [Request.values, hfirst, values_authorization, htoken, ht]
    rfl
  · rw [hcall] at hr
    have hunset : Http.valuesOf "authorization" client.headers = [] := by
      rw [values_authorization_eq_nil_iff, htoken, hnone]
    exact no_credential_along hunset true visits r hr

/-- Three servers, two redirects of different kinds between them, and a credential. The first redirect
says to see another document, so no request behind it tells the length of a body. -/
theorem requests_pinned_of_redirects :
    let options : ConnectionOptions := { baseAddress := some "http://stub", timeout := none }
    let client : Client :=
      { base := { scheme := some .http, authority := "stub".toList, target := { path := [] } }
        token := some ⟨"t0ken"⟩
        timeout := none }
    let replies : List Http.Reply :=
      [{ status := "303 See Other", location := some "http://other/a", body := [] },
        { status := "307 Temporary Redirect", location := some "http://third/b", body := [] },
        { body := Text.toBytes "[]".toList }]
    let network : Network := { listens := fun _ => true, replies := replies.map Http.Reply.toBytes }
    let call := client.combinedStatus network "octo/widgets" "abc123"
    build (some ⟨"t0ken"⟩) options = .ok client ∧
      call.requests.map (fun r => r.values "authorization") = [["Bearer t0ken"], [], []] ∧
      call.requests.map (fun r => r.values "content-length") = [["0"], [], []] ∧
      ∀ r ∈ call.requests, r.IsPinned := by
  intro options client replies network call
  have built : build (some ⟨"t0ken"⟩) options = .ok client := rfl
  obtain ⟨hpinned, -⟩ := requests_pinned built network "octo/widgets" "abc123" "ci/build"
  exact ⟨built, by decide +kernel, by decide +kernel, hpinned⟩

end Client

end CommitGate
