import CommitGate.Proofs.Address.Server
import CommitGate.Proofs.Call.Delivery
import CommitGate.Proofs.Call.Route
import CommitGate.Proofs.Client

/-!
# Bases that lead nowhere

Setting up a client refuses a base that is no address, and no other (`Client.build_eq_refused_iff`).
So a base is accepted that names no web server. Every call with it then ends without an answer and
sends nothing, whatever servers there are. With a base that does name one there are servers that a call
sends something to, whatever the clock reads that it can wait by, and whatever limit there is on what is
joined that it is within (`Client.base_leads_somewhere_iff`).
-/

namespace CommitGate.Client

/-- **The call is doomed**: it sends nothing and has no answer, whatever servers there are and
whatever they would send. -/
def IsDoomed (client : Client) (repository commit : String) : Prop :=
  ∀ network : Network, (client.combinedStatus network repository commit).result = .error .unanswered ∧
    (client.combinedStatus network repository commit).requests = []

/-- **The route of a commit fits** behind the base: path and query are within the limit, if there is
one. -/
def Fits (client : Client) (limit : Option Nat) (repository commit : String) : Prop :=
  ∀ address, Address.parse (statusRoute repository commit).toList = .ok address →
    ∀ n, limit = some n → Text.byteLength (client.address address.target).target.toText ≤ n

section Bases

variable {client : Client} {token : Option Secret} {options : ConnectionOptions}
  {repository commit : String}

theorem isDoomed_of_no_origin (hbase : client.base.origin? = none)
    (readable : IsReadable (statusRoute repository commit).toList) :
    client.IsDoomed repository commit := by
  obtain ⟨address, hroute⟩ := exists_parse_statusRoute_iff.2 readable
  intro network
  rw [combinedStatus_eq_fetch]
  exact fetch_of_crash hroute (.inr (.inr hbase))

/-- There are servers for which a call sends something just if its base has one, the connection to it
can wait, and the route fits. -/
theorem exists_requests_iff (readable : IsReadable (statusRoute repository commit).toList)
    (clock : Nat → Nat) (limit : Option Nat) :
    (∃ network : Network, network.clock = clock ∧ network.joinLimit = limit ∧
        (client.combinedStatus network repository commit).requests ≠ []) ↔
      client.base.origin? ≠ none ∧ client.canWait (clock Exchange.maxRedirects) = true ∧
        client.Fits limit repository commit := by
  constructor
  · rintro ⟨network, rfl, rfl, hsent⟩
    rw [combinedStatus_eq_fetch] at hsent
    obtain ⟨address, hp, hsets⟩ := fetch_requests_ne_nil_iff.1 hsent
    obtain ⟨origin, horigin, -⟩ := hsets.listens
    refine ⟨by simp [horigin], hsets.waits, fun address' hp' => ?_⟩
    cases hp.symm.trans hp'
    exact hsets.within
  · rintro ⟨hbase, can, fits⟩
    obtain ⟨origin, horigin⟩ := Option.ne_none_iff_exists'.1 hbase
    obtain ⟨address, hp⟩ := exists_parse_statusRoute_iff.2 readable
    let network : Network :=
      { listens := fun _ => true, replies := [], clock, joinLimit := limit }
    refine ⟨network, rfl, rfl, ?_⟩
    rw [combinedStatus_eq_fetch]
    exact fetch_requests_ne_nil_iff.2 ⟨address, hp, rfl, fits address hp, can, origin, horigin, rfl⟩

theorem isDoomed_iff (can : client.canWait 0 = true)
    (readable : IsReadable (statusRoute repository commit).toList) :
    client.IsDoomed repository commit ↔ client.base.origin? = none := by
  refine ⟨fun doomed => ?_, fun hbase => isDoomed_of_no_origin hbase readable⟩
  by_contra hbase
  have fits : client.Fits none repository commit := fun _ _ n hn => by cases hn
  obtain ⟨network, -, -, hsent⟩ :=
    (exists_requests_iff readable (fun _ => 0) none).2 ⟨hbase, can, fits⟩
  exact hsent (doomed network).2

end Bases

/-- **Whether a base leads somewhere.** Setting up is refused just if the text of the base is no
address. A text that is accepted names a web server or leads nowhere, and not both. If it leads
nowhere, it dooms every call about a route that can be read; if it names a web server, it dooms none of
a client whose timeout a clock can hold at all. Whatever the clock reads and whatever the limit is,
there are servers for which the client sends a request just if its base names a web server, the
connection to that can wait, and the route fits. -/
theorem base_leads_somewhere_iff (token : Option Secret) (options : ConnectionOptions) :
    let text := baseText options.baseAddress
    (build token options = .error (.refused unusableAddress) ↔
        ∃ e, Address.parse text = .error e) ∧
      ∀ client, build token options = .ok client →
        (NamesWebServer text ↔ ¬ LeadsNowhere text) ∧
        ∀ repository commit, IsReadable (statusRoute repository commit).toList →
          (LeadsNowhere text → client.IsDoomed repository commit) ∧
          (client.canWait 0 = true → (client.IsDoomed repository commit ↔ LeadsNowhere text)) ∧
          ∀ clock limit,
            (∃ network : Network, network.clock = clock ∧ network.joinLimit = limit ∧
                (client.combinedStatus network repository commit).requests ≠ []) ↔
              NamesWebServer text ∧ client.canWait (clock Exchange.maxRedirects) = true ∧
                client.Fits limit repository commit := by
  intro text
  have hrefused : build token options = .error (.refused unusableAddress) ↔
      ∃ e, Address.parse text = .error e := by
    rw [build_eq_refused_iff, and_iff_left rfl]
  refine ⟨hrefused, fun client built => ?_⟩
  obtain ⟨hparse, -⟩ := build_eq_ok_iff.1 built
  have hnames : NamesWebServer text ↔ client.base.origin? ≠ none :=
    Address.namesWebServer_iff hparse
  have hnowhere : LeadsNowhere text ↔ client.base.origin? = none := Address.leadsNowhere_iff hparse
  rw [hnames, hnowhere]
  refine ⟨Iff.rfl, fun repository commit readable => ⟨fun hbase => ?_, fun can => ?_, ?_⟩⟩
  · exact isDoomed_of_no_origin hbase readable
  · exact isDoomed_iff can readable
  · exact exists_requests_iff readable

/-- A base with the name of a user, a port and a path, and its scheme in upper case, while a clock runs
and what is joined is limited. -/
theorem base_leads_somewhere_with_user :
    let options : ConnectionOptions :=
      { baseAddress := some "HTTP://octo@stub:80/api", timeout := some 30 }
    NamesWebServer (baseText options.baseAddress) ∧
      ∃ client, build none options = .ok client ∧ client.canWait 1020 = true ∧
        client.Fits (some 65534) "octo/widgets" "abc123" ∧
        IsReadable (statusRoute "octo/widgets" "abc123").toList ∧
        ∃ network : Network, network.clock 0 = 1000 ∧ network.joinLimit = some 65534 ∧
          (client.combinedStatus network "octo/widgets" "abc123").requests ≠ [] := by
  intro options
  let base : Address :=
    { scheme := some .http
      authority := "octo@stub:80".toList
      target := { path := "/api".toList } }
  have hbase : Address.parse (baseText options.baseAddress) = .ok base := by decide +kernel
  have hnames : NamesWebServer (baseText options.baseAddress) :=
    (Address.namesWebServer_iff hbase).2 (by decide +kernel)
  let client : Client := { base, token := none, timeout := some 30 }
  have hbuilt : build none options = .ok client := build_eq_ok_iff.2 ⟨hbase, rfl, rfl, rfl⟩
  have hcan : client.canWait 1020 = true := by decide +kernel
  have hfits : client.Fits (some 65534) "octo/widgets" "abc123" := by
    intro address hp n hn
    obtain rfl : _ = address := Except.ok.inj hp
    cases hn
    decide +kernel
  have hreadable : IsReadable (statusRoute "octo/widgets" "abc123").toList :=
    exists_parse_statusRoute_iff.1 ⟨_, rfl⟩
  obtain ⟨-, hall⟩ := base_leads_somewhere_iff none options
  obtain ⟨-, hcalls⟩ := hall _ hbuilt
  obtain ⟨-, -, hsends⟩ := hcalls "octo/widgets" "abc123" hreadable
  obtain ⟨network, hclock, hlimit, hsent⟩ :=
    (hsends (fun budget => 1000 + budget) (some 65534)).2 ⟨hnames, hcan, hfits⟩
  exact ⟨hnames, client, hbuilt, hcan, hfits, hreadable, network, by rw [hclock], hlimit, hsent⟩

/-- **Bases that lead nowhere are accepted**: a host alone, a path, an asterisk, an address with the
scheme for files, and one with a port and no host. With none of them is there a server that a call
could reach. -/
theorem base_leading_nowhere_accepted :
    let accepted (text : String) : Prop :=
      ∃ client, build none { baseAddress := some text } = .ok client ∧
        ¬ NamesWebServer text.toList ∧ client.IsDoomed "octo/widgets" "abc123"
    accepted "localhost" ∧ accepted "/" ∧ accepted "*" ∧ accepted "ftp://stub" ∧
      accepted "http://:80" := by
  intro accepted
  have hreadable : IsReadable (statusRoute "octo/widgets" "abc123").toList :=
    exists_parse_statusRoute_iff.1 ⟨_, rfl⟩
  have haccepted {text : String} {base : Address} (hbase : Address.parse text.toList = .ok base)
      (hnowhere : base.origin? = none) : accepted text := by
    refine ⟨⟨base, none, none⟩, build_eq_ok_iff.2 ⟨hbase, rfl, rfl, rfl⟩, ?_, ?_⟩
    · exact ((Address.leadsNowhere_iff hbase).2 hnowhere).not_namesWebServer
    · exact isDoomed_of_no_origin hnowhere hreadable
  exact ⟨haccepted rfl rfl, haccepted rfl rfl, haccepted rfl rfl, haccepted rfl rfl,
    haccepted rfl rfl⟩

end CommitGate.Client
