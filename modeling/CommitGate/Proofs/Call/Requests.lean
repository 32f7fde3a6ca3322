import CommitGate.Proofs.Address.Reference
import CommitGate.Proofs.Call.Route
import CommitGate.Proofs.Exchange.Headers
import CommitGate.Proofs.Http.Request
import Mathlib.Data.List.DropRight

/-!
# What a call can be made to send

The texts that a call is put together from are not escaped anywhere, and the servers choose where it
goes from its second request on. Still each of its requests is clean (`Client.requests_clean`). It
starts at an address that can be asked for, since base and route were both read as addresses
(`Client.isSound_address`); every address that it is sent on to can be asked for as well
(`isSound_of_destination?`), so all visits along the chain are sound (`Chain.isSound`). What the
requests say besides is the credential, which setting up has looked at; dropping headers on the way
adds nothing (`Client.AreClean.without`).
-/

namespace CommitGate

open Http (Request Response Header Reply)
open Text (toBytes)

/-! ### Visits -/

/-- **The place is sound**: what is asked for there is a path from the root with perhaps a query, and
the name of its server consists of visible characters. -/
structure Place.IsSound (place : Place) : Prop where
  target : place.target.IsRooted
  host : ∀ c ∈ place.origin.host.toList, IsVisibleAscii c

section Chain

variable {web : Web} {budget : Nat} {address next : Address} {place : Place}

theorem Address.Reaches.isSound (reaches : address.Reaches web budget place)
    (h : address.origin? ≠ none → address.IsSound) : place.IsSound := by
  have hsound : address.IsSound := h (by simp [reaches.origin])
  refine ⟨?_, isVisibleAscii_of_origin? hsound.authority reaches.origin⟩
  rw [reaches.target]
  exact hsound.target

/-- Wherever a response sends on to can be asked for. -/
theorem isSound_of_destination? {names : Host.Names} {response : Response}
    (h : response.destination? names address = some (some next)) : next.IsSound := by
  unfold Response.destination? at h
  split at h
  · obtain ⟨reference, -, hfollow⟩ := Option.bind_eq_some_iff.1 h
    exact Address.isSound_of_follow? hfollow
  · cases h

/-- **All visits along a chain are sound**, if it starts at an address that can be asked for. -/
theorem Chain.isSound {replies left : List Bytes} {visits : List Visit} {last : Option Response}
    (h : Chain web budget address replies visits last left)
    (start : address.origin? ≠ none → address.IsSound) :
    ∀ visit ∈ visits, visit.toPlace.IsSound := by
  induction h with
  | unreachable silent => exact List.forall_mem_nil _
  | closed reaches | garbled reaches | beyond reaches | final reaches =>
    exact List.forall_mem_singleton.2 (reaches.isSound start)
  | hop reaches read leads rest ih =>
    have hnext := isSound_of_destination? leads
    exact List.forall_mem_cons.2 ⟨reaches.isSound start, ih fun _ => hnext⟩

end Chain

/-! ### Bytes -/

/-- No byte of what is asked for is a blank, a control character or a `#`. -/
theorem Target.IsLegal.byte {t : Target} (h : t.IsLegal) :
    ∀ b ∈ toBytes t.toText, 0x21 ≤ b ∧ b ≠ 0x7F ∧ b ≠ 0x23 := by
  have hchar : ∀ c ∈ t.toText, (isPathChar c || isQueryChar c) = true := by
    intro c hc
    rw [Bool.or_eq_true]
    obtain ⟨path, _ | query⟩ := t
    · exact .inl (h.path c hc)
    rcases List.mem_append.1 hc with hc | hc
    · exact .inl (h.path c hc)
    rcases List.mem_cons.1 hc with rfl | hc
    · exact .inr (by decide)
    · exact .inr (h.query query rfl c hc)
  refine Text.forall_mem_toBytes hchar (by decide +kernel) fun b hb => ?_
  simp only [UInt8.le_iff_toNat_le, UInt8.reduceToNat, ne_eq, ← UInt8.toNat_inj] at hb ⊢
  omega

/-- No byte of characters that may stand in a header is a control character other than the tab. -/
theorem Client.byte_of_isHeaderChar {s : List Char} (h : ∀ c ∈ s, Client.isHeaderChar c = true) :
    ∀ b ∈ toBytes s, b = 0x09 ∨ 0x20 ≤ b ∧ b ≠ 0x7F := by
  refine Text.forall_mem_toBytes h (by decide +kernel) fun b hb => ?_
  simp only [UInt8.le_iff_toNat_le, UInt8.reduceToNat, ne_eq, ← UInt8.toNat_inj] at hb ⊢
  omega

/-! ### Where a call starts -/

namespace Client

variable {client : Client} {network : Network} {token : Option Secret} {options : ConnectionOptions}

theorem basePath_prefix (client : Client) : client.basePath <+: client.base.target.path :=
  List.rdropWhile_prefix _ _

/-- The path of a base that was read with a scheme is empty or starts with a slash. -/
theorem basePath_eq_nil_or_slash {behind : List Char}
    (h : Target.parse behind = .ok client.base.target)
    (hbehind : ∀ c ∈ behind.head?, endsAuthority c = true) :
    client.basePath = [] ∨ ∃ rest, client.basePath = '/' :: rest := by
  obtain ⟨slashes, hpath⟩ := client.basePath_prefix
  rcases hbase : client.basePath with _ | ⟨c, rest⟩
  · exact .inl rfl
  rw [hbase, List.cons_append] at hpath
  rcases Target.path_eq_nil_or_isRooted h hbehind with hnil | hrooted
  · rw [hnil] at hpath
    cases hpath
  · obtain ⟨own, hown⟩ := hrooted.slash
    rw [hown] at hpath
    obtain rfl : c = '/' := (List.cons_eq_cons.1 hpath).1
    exact .inr ⟨rest, rfl⟩

/-- **The address that a call starts at can be asked for**, if the base was read with a scheme. -/
theorem isSound_address {text : List Char} (hparse : Address.parse text = .ok client.base)
    (hscheme : client.base.scheme ≠ none) {route : Target} (hroute : route.IsRooted) :
    (client.address route).IsSound := by
  obtain ⟨scheme, hsome⟩ := Option.ne_none_iff_exists'.1 hscheme
  obtain ⟨name, behind, hparts, -, hauthority, htarget⟩ := Address.exists_hasParts hparse hsome
  refine ⟨hauthority, ?_⟩
  by_cases hprefix : client.basePath.isPrefixOf route.path = true
  · simp only [address, if_pos hprefix]
    exact hroute
  simp only [address, if_neg hprefix]
  refine ⟨⟨fun c hc => ?_, hroute.legal.query⟩, ?_⟩
  · rcases List.mem_append.1 hc with hc | hc
    · exact (Target.of_parse htarget).1.path c (client.basePath_prefix.subset hc)
    · exact hroute.legal.path c hc
  · rcases basePath_eq_nil_or_slash htarget hparts.behind with hnil | ⟨rest, hrest⟩
    · rw [hnil]
      exact hroute.slash
    · rw [hrest]
      exact ⟨rest ++ route.path, rfl⟩

/-- The route of a commit that can be read starts with a slash. -/
theorem isRooted_of_parse_statusRoute {repository commit : String} {address : Address}
    (h : Address.parse (statusRoute repository commit).toList = .ok address) :
    address.target.IsRooted := by
  obtain ⟨rest, hroute⟩ := exists_statusRoute_eq repository commit
  rw [hroute] at h
  obtain ⟨-, -, -, hlegal, htext⟩ := Address.parse_route_eq_ok_iff.1 h
  exact Target.isRooted_of_parse (Target.parse_eq_ok_iff.2 ⟨hlegal, htext⟩)

/-! ### Requests -/

/-- **The headers are clean**, all of them, and they are not too many. -/
structure AreClean (headers : List Header) : Prop where
  clean : ∀ h ∈ headers, h.IsClean
  count : headers.length ≤ Http.Head.maxFields

theorem AreClean.without {headers : List Header} (h : AreClean headers) (names : List String) :
    AreClean (Http.without names headers) :=
  ⟨fun header hheader => h.clean header (List.mem_filter.1 hheader).1,
    (List.length_filter_le _ _).trans h.count⟩

/-- The headers of a client are clean if its credential may be sent. -/
theorem areClean_headers (htoken : client.token.all isLegalToken = true) :
    AreClean client.headers := by
  refine ⟨fun h hh => ?_, ?_⟩
  · rcases mem_headers_iff.1 hh with hfixed | ⟨secret, hsecret, rfl⟩
    · simp only [List.mem_cons, List.not_mem_nil, or_false] at hfixed
      rcases hfixed with rfl | rfl | rfl | rfl <;>
        exact ⟨by decide, List.all_eq_true.1 (by decide +kernel), by decide +kernel,
          byte_of_isHeaderChar (List.all_eq_true.1 (by decide +kernel))⟩
    · have hname : (toBytes "authorization".toList).all Http.isNameByte = true := by
        decide +kernel
      have hlower : Http.lowerText (toBytes "authorization".toList) = "authorization" := by
        decide +kernel
      refine ⟨(by decide : "authorization" ≠ ""), List.all_eq_true.1 hname, hlower,
        byte_of_isHeaderChar fun c hc => ?_⟩
      rw [hsecret, Option.all_some, isLegalToken, List.all_eq_true] at htoken
      rw [String.toList_append, List.mem_append] at hc
      rcases hc with hc | hc
      · have hfixed : "Bearer ".toList.all isHeaderChar = true := by decide
        exact List.all_eq_true.1 hfixed c hc
      · exact htoken c hc
  · have hfive : client.headers.length ≤ 5 := by
      unfold headers
      rcases client.token with _ | secret <;> simp
    exact hfive.trans (by decide)

/-- Clean headers make a clean request of a sound place. -/
theorem isClean_of_place {request : Request} {place : Place} (hplace : place.IsSound)
    (horigin : request.origin = place.origin) (htarget : request.target = place.target)
    (hheaders : AreClean request.headers) : request.IsClean := by
  have hbytes := hplace.target.legal.byte
  rw [← htarget] at hbytes
  refine ⟨⟨request.target.toText, rfl, ?_, hbytes⟩, hheaders.clean, hheaders.count, ?_⟩
  · rw [htarget]
    exact hplace.target.head?_toText
  · rw [horigin]
    exact hplace.host

/-- What a client meets that asks for the status of a commit is sound. -/
theorem Meets.isSound {text : List Char} (hparse : Address.parse text = .ok client.base)
    {route : Target} (hroute : route.IsRooted) {visits : List Visit} {last : Option Response}
    {left : List Bytes} (h : client.Meets network route visits last left) :
    ∀ visit ∈ visits, visit.toPlace.IsSound := by
  cases h with
  | lost crash => exact List.forall_mem_nil _
  | chain served joined along =>
    refine along.isSound fun horigin => ?_
    obtain ⟨origin, hsome⟩ := Option.ne_none_iff_exists'.1 horigin
    rw [← address_of_join joined] at hsome ⊢
    have hscheme : (client.address route).scheme ≠ none := (Address.of_origin? hsome).1
    exact isSound_address hparse hscheme hroute

theorem isClean_of_mem_requests (built : build token options = .ok client)
    {repository commit : String} {request : Request}
    (h : request ∈ (client.combinedStatus network repository commit).requests) :
    request.IsClean := by
  obtain ⟨hparse, hlegal, rfl, -⟩ := build_eq_ok_iff.1 built
  rw [combinedStatus_eq_fetch] at h
  rcases hp : Address.parse (statusRoute repository commit).toList with e | address
  · rw [fetch_eq_of_bad hp] at h
    cases h
  obtain ⟨visits, last, left, hmeets⟩ := client.exists_meets network address.target
  rw [fetch_eq hp hmeets] at h
  obtain ⟨visit, hvisit, horigin, htarget⟩ := exists_visit_of_mem h
  have hsound := hmeets.isSound hparse (isRooted_of_parse_statusRoute hp) visit hvisit
  have hheaders : AreClean request.headers :=
    headers_along (fun _ hsaved => hsaved.without _) (fun _ hsaved => hsaved.without _)
      (areClean_headers hlegal) true visits request h
  exact isClean_of_place hsound horigin htarget hheaders

/-- **No text adds anything to a request.** Whatever the credential, the base, the commit and the
answers of the servers are, each request of a call is clean, and it is read as its own line, its own
headers and nothing behind them. -/
theorem requests_clean (built : build token options = .ok client) (network : Network)
    (repository commit required : String) :
    let call := client.combinedStatus network repository commit
    (∀ r ∈ call.requests, r.IsClean ∧ r.ReadsBack) ∧
      (client.check network repository commit required).requests = call.requests := by
  intro call
  refine ⟨fun r hr => ?_, check_requests ..⟩
  have hclean : r.IsClean := isClean_of_mem_requests built hr
  exact ⟨hclean, hclean.readsBack⟩

/-- A credential with a tab, a repository with a quote, and a link with blanks and a tab. -/
theorem requests_clean_of_link :
    let options : ConnectionOptions := { baseAddress := some "http://stub/ghe/", timeout := none }
    let client : Client :=
      { base :=
          { scheme := some .http, authority := "stub".toList, target := { path := "/ghe/".toList } }
        token := some ⟨"t0\tken"⟩
        timeout := none }
    let replies : List Reply :=
      [{ status := "302 Found", location := some "/a b\tc?d e", body := [] }]
    let network : Network := { listens := fun _ => true, replies := replies.map Reply.toBytes }
    let call := client.combinedStatus network "octo/wid\x22gets" "abc123"
    build (some ⟨"t0\tken"⟩) options = .ok client ∧
      call.requests.map Request.startLine =
        ["GET /ghe/repos/octo/wid\x22gets/commits/abc123/status HTTP/1.1",
          "GET /a%20bc?d%20e HTTP/1.1"] ∧
      ∀ r ∈ call.requests, r.IsClean ∧ r.ReadsBack := by
  intro options client replies network call
  have built : build (some ⟨"t0\tken"⟩) options = .ok client := rfl
  obtain ⟨hclean, -⟩ := requests_clean built network "octo/wid\x22gets" "abc123" "ci/build"
  exact ⟨built, by decide +kernel, hclean⟩

end Client

end CommitGate
