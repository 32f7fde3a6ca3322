import CommitGate.Proofs.Address.Origin

/-!
# Texts that name a web server

A connection can be opened to the server of an address just if its text names a web server: its scheme
is one of the two for that, and something stands in front of the port
(`Address.namesWebServer_iff`). Other texts are addresses as well (`LeadsNowhere`): a server or a path
alone, an asterisk, an address with another scheme, and one with a port and no host.
-/

namespace CommitGate

/-! ### User information and the server behind it -/

/-- **An authority falls into these parts**: user information, which ends with an `@` if there is any,
and behind it the server. -/
structure HasUser (authority user server : List Char) : Prop where
  text : authority = user ++ server
  user : ∀ c ∈ user.getLast?, c = '@'
  server : '@' ∉ server

theorem exists_hasUser (authority : List Char) : ∃ user server, HasUser authority user server := by
  by_cases h : '@' ∈ authority
  · -- the last `@` is the first one from behind
    obtain ⟨server, user, hsplit, hserver⟩ := List.eq_append_cons_of_mem (List.mem_reverse.2 h)
    refine ⟨user.reverse ++ ['@'], server.reverse, ?_, by simp, by simpa using hserver⟩
    rw [← List.reverse_reverse authority, hsplit]
    simp
  · exact ⟨[], authority, rfl, by simp, h⟩

/-- The server is what the host is taken from. -/
theorem HasUser.behindLast?_eq {authority user server : List Char}
    (h : HasUser authority user server) :
    (behindLast? (· == '@') authority).getD authority = server := by
  obtain ⟨rfl, huser, hserver⟩ := h
  have hplain : ∀ c ∈ server, (c == '@') = false := by
    intro c hc
    exact beq_false_of_ne fun heq => hserver (heq ▸ hc)
  rcases List.eq_nil_or_concat user with rfl | ⟨front, c, rfl⟩
  · have hnone : server.any (· == '@') = false := by simpa using hplain
    simp [behindLast?, hnone]
  · obtain rfl : c = '@' := huser c (by simp)
    have htake : (server.reverse ++ '@' :: front.reverse).takeWhile (fun c => !(c == '@')) =
        server.reverse :=
      takeWhile_append_of_stop (by simpa using hplain) (by simp)
    simp [behindLast?, htake]

/-- The authority is only a port: behind user information, if there is any, it starts with a colon. -/
def IsPortOnly (authority : List Char) : Prop :=
  ∃ user port, HasUser authority user (':' :: port)

theorem AuthorityScan.endsInAt_of_foldlM {s : List Char} {scan scan' : AuthorityScan}
    (h : (s ++ ['@']).foldlM next? scan = some scan') : scan'.endsInAt = true := by
  rw [List.foldlM_append, Option.bind_eq_bind, Option.bind_eq_some_iff] at h
  obtain ⟨middle, -, hlast⟩ := h
  obtain rfl : { middle with endsInAt := true, colons := 0, hasPercent := false } = scan' := by
    simpa [next?, isAuthorityChar] using hlast
  rfl

/-- User information has a server behind it. -/
theorem isAuthority_concat_at (s : List Char) : isAuthority (s ++ ['@']) = false := by
  unfold isAuthority
  split
  · next scan hscan => simp [AuthorityScan.mayEnd, AuthorityScan.endsInAt_of_foldlM hscan]
  · rfl

namespace Address

variable {address : Address} {text : List Char}

/-- The host is what stands in front of the port, so it is missing if nothing does. -/
theorem host_eq_nil_iff_of_hasUser {user server : List Char}
    (h : HasUser address.authority user server) :
    address.host = [] ↔ server = [] ∨ ∃ port, server = ':' :: port := by
  simp only [host, h.behindLast?_eq]
  rcases server with _ | ⟨c, server⟩
  · simp
  by_cases hcolon : c = ':'
  · simp [hcolon]
  · split
    · next hbracket =>
      cases hbracket
      simp
    · simp [hcolon]

/-- **An address has no host** just if its authority is only a port. -/
theorem host_eq_nil_iff (hauthority : isAuthority address.authority = true)
    (hne : address.authority ≠ []) : address.host = [] ↔ IsPortOnly address.authority := by
  obtain ⟨user, server, huser⟩ := exists_hasUser address.authority
  have hserver : server ≠ [] := by
    rintro rfl
    obtain ⟨htext, hlast, -⟩ := huser
    rw [List.append_nil] at htext
    rcases List.eq_nil_or_concat user with rfl | ⟨front, c, rfl⟩
    · exact hne htext
    · obtain rfl : c = '@' := hlast c (by simp)
      rw [htext, List.concat_eq_append, isAuthority_concat_at] at hauthority
      cases hauthority
  rw [host_eq_nil_iff_of_hasUser huser, or_iff_right hserver]
  constructor
  · rintro ⟨port, rfl⟩
    exact ⟨user, port, huser⟩
  · rintro ⟨user', port, huser'⟩
    exact ⟨port, huser.behindLast?_eq.symm.trans huser'.behindLast?_eq⟩

end Address

/-! ### Web servers -/

/-- The name of a scheme is one of the two for web servers, in any case. -/
def IsWebScheme (name : List Char) : Prop :=
  name.map Char.toLower = "http".toList ∨ name.map Char.toLower = "https".toList

theorem isWebScheme_iff {name : List Char} :
    IsWebScheme name ↔ Scheme.ofName name = .http ∨ Scheme.ofName name = .https := by
  simp only [IsWebScheme, Scheme.ofName]
  split
  · next h => exact ⟨fun _ => .inl rfl, fun _ => .inl h⟩
  split
  · next h => exact ⟨fun _ => .inr rfl, fun _ => .inr h⟩
  · next hhttp hhttps => simp only [hhttp, hhttps, or_self, reduceCtorEq]

/-- **The text names a web server**: it has a scheme for that, and a host. -/
def NamesWebServer (text : List Char) : Prop :=
  ∃ name server behind, HasParts text name server behind ∧ IsWebScheme name ∧ ¬ IsPortOnly server

/-- **The text leads nowhere**: if it is an address at all, no connection can be opened to it. -/
inductive LeadsNowhere (text : List Char) : Prop
  /-- It is an authority without a scheme. -/
  | authorityAlone (alone : isAuthority text = true)
  | path {rest : List Char} (rooted : text = '/' :: rest)
  | asterisk (asterisk : text = ['*'])
  | otherScheme {name server behind : List Char} (parts : HasParts text name server behind)
      (other : ¬ IsWebScheme name)
  | noHost {name server behind : List Char} (parts : HasParts text name server behind)
      (portOnly : IsPortOnly server)

/-- An authority has no slash in it, so it has no scheme. -/
theorem not_hasParts_of_isAuthority {text name server behind : List Char}
    (h : isAuthority text = true) : ¬ HasParts text name server behind := by
  intro hparts
  have hslash : isAuthorityChar '/' = true := by
    refine isAuthorityChar_of_isAuthority h '/' ?_
    rw [hparts.text]
    simp
  exact absurd hslash (by decide)

/-- No text does both. -/
theorem LeadsNowhere.not_namesWebServer {text : List Char} (h : LeadsNowhere text) :
    ¬ NamesWebServer text := by
  rintro ⟨name, server, behind, hparts, hweb, hhost⟩
  cases h with
  | authorityAlone alone => exact not_hasParts_of_isAuthority alone hparts
  | path rooted => exact hparts.head_ne.1 _ rooted
  | asterisk asterisk => exact hparts.head_ne.2.2 asterisk
  | otherScheme parts other =>
    obtain ⟨rfl, -, -⟩ := parts.unique hparts
    exact other hweb
  | noHost parts portOnly =>
    obtain ⟨-, rfl, -⟩ := parts.unique hparts
    exact hhost portOnly

namespace Address

variable {address : Address} {text : List Char}

/-- An address has an origin just if it has one of the two schemes and a host. -/
theorem origin?_eq_none_iff :
    address.origin? = none ↔
      address.host = [] ∨ address.scheme ≠ some .http ∧ address.scheme ≠ some .https := by
  have hempty : (String.ofList (address.host.map Char.toLower)).isEmpty = true ↔
      address.host = [] := by
    rw [String.isEmpty_iff, String.ofList_eq_empty_iff, List.map_eq_nil_iff]
  unfold origin?
  simp only [hempty]
  split
  · next hhost => simp [hhost]
  · next hhost =>
    rcases address.scheme with _ | _ | _ | name <;> simp [hhost]

/-- **Each text that is an address does one of the two**: it names a web server, and then a connection
can be opened to that, or it leads nowhere. -/
theorem namesWebServer_or_leadsNowhere (h : parse text = .ok address) :
    NamesWebServer text ∧ address.origin? ≠ none ∨ LeadsNowhere text ∧ address.origin? = none := by
  rcases schemeless_or_hasParts h with ⟨hscheme, hform⟩ | ⟨name, server, behind, hparts⟩
  · have hnone : address.origin? = none := origin?_eq_none_iff.2 (.inr (by simp [hscheme]))
    rcases hform with halone | ⟨rest, hrooted⟩ | hasterisk
    · exact .inr ⟨.authorityAlone halone, hnone⟩
    · exact .inr ⟨.path hrooted, hnone⟩
    · exact .inr ⟨.asterisk hasterisk, hnone⟩
  obtain ⟨-, -, hscheme, rfl, hne, hauthority, -⟩ := (parse_eq_ok_iff hparts).1 h
  by_cases hweb : IsWebScheme name
  · by_cases hport : IsPortOnly address.authority
    · refine .inr ⟨.noHost hparts hport, origin?_eq_none_iff.2 (.inl ?_)⟩
      exact (host_eq_nil_iff hauthority hne).2 hport
    · refine .inl ⟨⟨name, _, behind, hparts, hweb, hport⟩, fun hnone => ?_⟩
      rcases origin?_eq_none_iff.1 hnone with hhost | ⟨hhttp, hhttps⟩
      · exact hport ((host_eq_nil_iff hauthority hne).1 hhost)
      · rcases isWebScheme_iff.1 hweb with hname | hname
        · exact hhttp (by rw [hscheme, hname])
        · exact hhttps (by rw [hscheme, hname])
  · refine .inr ⟨.otherScheme hparts hweb, origin?_eq_none_iff.2 (.inr ?_)⟩
    rw [isWebScheme_iff, not_or] at hweb
    rw [hscheme]
    simpa using hweb

/-- A connection can be opened to an address just if its text names a web server. -/
theorem namesWebServer_iff (h : parse text = .ok address) :
    NamesWebServer text ↔ address.origin? ≠ none := by
  rcases namesWebServer_or_leadsNowhere h with ⟨hnames, horigin⟩ | ⟨hnowhere, horigin⟩
  · exact iff_of_true hnames horigin
  · exact iff_of_false hnowhere.not_namesWebServer fun hsome => hsome horigin

theorem leadsNowhere_iff (h : parse text = .ok address) :
    LeadsNowhere text ↔ address.origin? = none := by
  rcases namesWebServer_or_leadsNowhere h with ⟨hnames, horigin⟩ | ⟨hnowhere, horigin⟩
  · exact iff_of_false (fun hnowhere => hnowhere.not_namesWebServer hnames) horigin
  · exact iff_of_true hnowhere horigin

end Address

end CommitGate
