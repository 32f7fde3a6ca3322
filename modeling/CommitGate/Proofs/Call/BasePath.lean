import CommitGate.Proofs.Address.Parts
import CommitGate.Proofs.Call.Route
import CommitGate.Proofs.Client
import Mathlib.Data.List.DropRight

/-!
# The path of the base

A base has one path, however many slashes stand behind it (`Client.hasBasePath_iff`). What a call
asks for first is that path and behind it the route; but where the route happens to begin with the
path, it is the route alone (`Client.base_path_kept_iff`), whatever the path was meant to be. So a
server that is reached below `/re` is asked for a document that is not below it
(`Client.base_path_lost`).
-/

namespace CommitGate

open Http (Request Reply)

/-- **The path of a base**, as its text is written: what stands behind the server and in front of a
query or a fragment, without the slashes at its end. -/
def HasBasePath (text path : List Char) : Prop :=
  ∃ name server slashes behind, HasParts text name server (path ++ slashes ++ behind) ∧
    (∀ c ∈ path, c ≠ '?' ∧ c ≠ '#') ∧ path.getLast? ≠ some '/' ∧ (∀ c ∈ slashes, c = '/') ∧
    ∀ c ∈ behind.head?, c = '?' ∨ c = '#'

/-- A text without a question mark stands at the front of a path and a query just if it stands at the
front of the path. -/
theorem Target.prefix_toText_iff {t : Target} {path : List Char} (hpath : ∀ c ∈ path, c ≠ '?') :
    path <+: t.toText ↔ path <+: t.path := by
  obtain ⟨own, _ | query⟩ := t
  · exact Iff.rfl
  simp only [Target.toText]
  constructor
  · intro h
    rcases List.prefix_or_prefix_of_prefix h (List.prefix_append own ('?' :: query)) with h' | h'
    · exact h'
    -- what the path has behind the own one would start with the question mark
    · obtain ⟨tail, rfl⟩ := h'
      rcases tail with _ | ⟨c, tail⟩
      · simp
      · rw [List.prefix_append_right_inj, List.cons_prefix_cons] at h
        exact absurd h.1 (hpath c (by simp))
  · exact fun h => h.trans (List.prefix_append own _)

namespace Client

variable {client : Client} {network : Network} {repository commit : String} {text path : List Char}

theorem basePath_eq_rdropWhile (client : Client) :
    client.basePath = client.base.target.path.rdropWhile (· == '/') := rfl

/-- The slashes at the end do not count. -/
theorem basePath_of_path_eq {slashes : List Char} (hlast : path.getLast? ≠ some '/')
    (hslashes : ∀ c ∈ slashes, c = '/') (h : client.base.target.path = path ++ slashes) :
    client.basePath = path := by
  have hall : ∀ c ∈ slashes.reverse, (c == '/') = true := by simpa using hslashes
  rw [basePath, h, List.reverse_append, List.dropWhile_append_of_pos hall]
  rcases hrev : path.reverse with _ | ⟨c, tail⟩
  · rw [← List.reverse_reverse path, hrev]
    rfl
  · have hc : c ≠ '/' := by
      rintro rfl
      rw [← List.head?_reverse, hrev] at hlast
      exact hlast rfl
    rw [List.dropWhile_cons_of_neg (by simpa using hc), ← hrev, List.reverse_reverse]

theorem exists_basePath_append (client : Client) :
    ∃ slashes, client.base.target.path = client.basePath ++ slashes ∧ (∀ c ∈ slashes, c = '/') ∧
      client.basePath.getLast? ≠ some '/' := by
  refine ⟨client.base.target.path.rtakeWhile (· == '/'), ?_, fun c hc => ?_, fun hlast => ?_⟩
  · rw [basePath_eq_rdropWhile, List.rdropWhile_append_rtakeWhile]
  · simpa using List.mem_rtakeWhile_imp hc
  · rw [basePath_eq_rdropWhile] at hlast
    obtain ⟨hne, hslash⟩ := List.mem_getLast?_eq_getLast hlast
    exact List.rdropWhile_last_not (· == '/') _ hne (by simp [← hslash])

/-- **A base with a scheme has one path**, and it is the one that routes are joined to. -/
theorem hasBasePath_iff (hparse : Address.parse text = .ok client.base)
    (hscheme : client.base.scheme ≠ none) : HasBasePath text path ↔ path = client.basePath := by
  obtain ⟨scheme, hsome⟩ := Option.ne_none_iff_exists'.1 hscheme
  obtain ⟨name, rest, hparts, -, -, htarget⟩ := Address.exists_hasParts hparse hsome
  constructor
  · rintro ⟨name', server', slashes, behind, hparts', hplain, hlast, hslashes, hbehind⟩
    obtain ⟨-, -, rfl⟩ := hparts.unique hparts'
    have hpath : ∀ c ∈ path ++ slashes, c ≠ '?' ∧ c ≠ '#' := by
      intro c hc
      rcases List.mem_append.1 hc with hc | hc
      · exact hplain c hc
      · rw [hslashes c hc]
        decide
    exact (basePath_of_path_eq hlast hslashes (Target.path_of_parse hpath hbehind htarget)).symm
  · rintro rfl
    obtain ⟨own, behind, rfl, hplain, hbehind⟩ := Target.exists_eq_path_append rest
    obtain rfl := Target.path_of_parse hplain hbehind htarget
    obtain ⟨slashes, hown, hslashes, hlast⟩ := client.exists_basePath_append
    rw [hown] at hparts hplain
    exact ⟨name, _, slashes, behind, hparts, fun c hc => hplain c (List.mem_append_left _ hc), hlast,
      hslashes, hbehind⟩

/-- What is asked for of a route: with the path of the base in front of it, unless it begins with
that. -/
theorem toText_address (client : Client) (route : Target) (hplain : ∀ c ∈ client.basePath, c ≠ '?') :
    (client.address route).target.toText =
      if client.basePath <+: route.toText then route.toText
      else client.basePath ++ route.toText := by
  have hprefix : client.basePath.isPrefixOf route.path = true ↔ client.basePath <+: route.toText := by
    rw [Target.prefix_toText_iff hplain, List.isPrefixOf_iff_prefix]
  obtain ⟨own, query⟩ := route
  simp only [address, hprefix]
  split
  · rfl
  · rcases query with _ | query
    · rfl
    · simp only [Target.toText, List.append_assoc]

theorem append_eq_ite_iff {route : List Char} :
    (if path <+: route then route else path ++ route) = path ++ route ↔
      path = [] ∨ ¬ path <+: route := by
  by_cases h : path <+: route
  · rw [if_pos h]
    simp [h]
  · rw [if_neg h]
    simp [h]

/-- **Whether the path of the base is kept.** A base with a scheme has one path, and what a call asks
for first is the path with the route, up to its first `#`, behind it, unless the route begins with
the path: then it is the route alone. So the path is kept just if it is empty or the route does not
begin with it. -/
theorem base_path_kept_iff {token : Option Secret} {options : ConnectionOptions}
    (built : build token options = .ok client) (hscheme : client.base.scheme ≠ none)
    (network : Network) (repository commit : String) :
    let route := beforeHash (statusRoute repository commit).toList
    let call := client.combinedStatus network repository commit
    ∃ path, (∀ p, HasBasePath (baseText options.baseAddress) p ↔ p = path) ∧
      (call.requests ≠ [] ↔ IsReadable (statusRoute repository commit).toList ∧
        client.SetsOut network (if path <+: route then route else path ++ route)) ∧
      ∀ request, call.requests.head? = some request →
        request.target.toText = (if path <+: route then route else path ++ route) ∧
          (request.target.toText = path ++ route ↔ path = [] ∨ ¬ path <+: route) := by
  intro route call
  have hpath : ∀ p, HasBasePath (baseText options.baseAddress) p ↔ p = client.basePath := fun p =>
    hasBasePath_iff (build_eq_ok_iff.1 built).1 hscheme
  obtain ⟨-, -, -, -, -, hplain, -⟩ := (hpath client.basePath).2 rfl
  have hasked : ∀ address, Address.parse (statusRoute repository commit).toList = .ok address →
      (client.address address.target).target.toText =
        if client.basePath <+: route then route else client.basePath ++ route := by
    intro address hp
    rw [toText_address client _ fun c hc => (hplain c hc).1, toText_of_parse_statusRoute hp]
  refine ⟨client.basePath, hpath, combinedStatus_requests_ne_nil_iff hasked,
    fun request hrequest => ?_⟩
  have htext : request.target.toText =
      if client.basePath <+: route then route else client.basePath ++ route := by
    obtain ⟨address, hp, htarget⟩ := target_of_first_request hrequest
    rw [htarget, hasked address hp]
  refine ⟨htext, ?_⟩
  rw [htext]
  exact append_eq_ite_iff

/-- A base with a path, two slashes behind it and a query. -/
theorem base_path_kept_with_slashes :
    let options : ConnectionOptions :=
      { baseAddress := some "http://stub/ghe/api//?v=3", timeout := none }
    let client : Client :=
      { base :=
          { scheme := some .http, authority := "stub".toList,
            target := { path := "/ghe/api//".toList, query := some "v=3".toList } }
        token := none
        timeout := none }
    let network : Network := { listens := fun _ => true, replies := [] }
    let call := client.combinedStatus network "octo/widgets" "abc123"
    build none options = .ok client ∧
      HasBasePath "http://stub/ghe/api//?v=3".toList "/ghe/api".toList ∧ call.requests ≠ [] ∧
      ∀ request, call.requests.head? = some request →
        request.target.toText = "/ghe/api/repos/octo/widgets/commits/abc123/status".toList := by
  intro options client network call
  have built : build none options = .ok client := rfl
  obtain ⟨path, hpath, -, hfirst⟩ :=
    base_path_kept_iff built (by simp [client]) network "octo/widgets" "abc123"
  obtain rfl : client.basePath = path :=
    (hpath _).1 ((hasBasePath_iff (by rfl) (by simp [client])).2 rfl)
  refine ⟨built, (hpath _).2 (by decide +kernel), by decide +kernel, fun request hrequest => ?_⟩
  rw [(hfirst request hrequest).1]
  decide +kernel

/-- **The path of the base is lost** if it happens to stand at the front of the route. -/
theorem base_path_lost :
    let options : ConnectionOptions := { baseAddress := some "http://stub/re", timeout := none }
    let client : Client :=
      { base :=
          { scheme := some .http, authority := "stub".toList, target := { path := "/re".toList } }
        token := none
        timeout := none }
    let reply : Reply := { body := Text.toBytes "\x7b\"statuses\":[]\x7d".toList }
    let network : Network := { listens := fun _ => true, replies := [reply.toBytes] }
    let call := client.combinedStatus network "octo/widgets" "abc123"
    build none options = .ok client ∧ HasBasePath "http://stub/re".toList "/re".toList ∧
      call.requests.map Request.startLine =
        ["GET /repos/octo/widgets/commits/abc123/status HTTP/1.1"] ∧
      ¬ ∀ request, call.requests.head? = some request →
        request.target.toText = "/re/repos/octo/widgets/commits/abc123/status".toList := by
  intro options client reply network call
  have hfirst : call.requests.head?.map (fun request => request.target.toText) =
      some "/repos/octo/widgets/commits/abc123/status".toList := by decide +kernel
  have hpath : HasBasePath "http://stub/re".toList client.basePath :=
    (hasBasePath_iff rfl (by simp [client])).2 rfl
  refine ⟨rfl, hpath, by decide +kernel, fun hkept => ?_⟩
  obtain ⟨request, hrequest, htext⟩ := Option.map_eq_some_iff.1 hfirst
  have hlost := hkept request hrequest
  rw [htext] at hlost
  exact absurd hlost (by decide +kernel)

end Client

end CommitGate
