import CommitGate.Proofs.Call.Requests
import CommitGate.Proofs.Report.Course
import CommitGate.Proofs.Settings.Order

/-!
# The client of a run

A run that can read its settings sets up one client and makes one call with it (`Report.Employs`). All
that it sends is what that call sends, so it is clean (`Report.isClean_of_mem_requests`), and all that
it takes of what the servers send is what the call takes (`Report.Leaves`). A run that has no client
sends nothing and leaves the servers as they were.
-/

namespace CommitGate

namespace Environment

variable {env : Environment} {request request' : CheckRequest} {options options' : ConnectionOptions}

/-- Settings that are read are at fault nowhere. -/
theorem Reads.not_first (h : env.Reads request options) {front : List Variable} {v : Variable}
    {e : SettingsError} : ¬ env.lookup.FirstFault Variable.all front v e := by
  intro first
  have hfails := Lookup.exists_first_iff.1 ⟨front, v, e, first⟩
  rw [h.checked, h.reached] at hfails
  rcases hfails with ⟨e', he⟩ | ⟨e', he⟩
  · cases he
  · cases he

end Environment

namespace Report

/-- **The run sets up this client** for what it is asked to check. -/
inductive Employs (env : Environment) (request : CheckRequest) (client : Client) : Prop
  | intro {options : ConnectionOptions} (reads : env.Reads request options)
      (built : Client.build (some request.credential) options = .ok client) :
      Employs env request client

/-- **What a run leaves to the servers to send**: what its call leaves, or all if it makes none. -/
inductive Leaves (env : Environment) (network : Network) : List Bytes → Prop
  | called {request : CheckRequest} {client : Client} (employs : Employs env request client) :
      Leaves env network (client.check network request.repository request.commit
        request.requiredContext).network.replies
  | uncalled (idle : ∀ request client, ¬ Employs env request client) :
      Leaves env network network.replies

section Clients

variable {env : Environment} {network : Network} {request request' : CheckRequest}
  {options : ConnectionOptions} {client client' : Client}

/-- A run with a client sends what the call sends. -/
theorem Employs.requests_full (h : Employs env request client) (network : Network) :
    (full env network).requests = (client.check network request.repository request.commit
      request.requiredContext).requests := by
  obtain ⟨reads, built⟩ := h
  unfold full
  simp only [reads.checked, reads.reached, built]

/-- A run without a client sends nothing. -/
theorem requests_full_of_idle (h : ∀ request client, ¬ Employs env request client)
    (network : Network) : (full env network).requests = [] := by
  unfold full
  rcases hr : (CheckRequest.ask env.lookup).answer with e | request
  · rfl
  rcases ho : (ConnectionOptions.ask env.lookup).answer with e | options
  · rfl
  rcases hb : Client.build (some request.credential) options with (refusal | _) | client
  · simp only [hb]
    rfl
  · simp only [hb]
    rfl
  · exact absurd ⟨⟨hr, ho⟩, hb⟩ (h request client)

/-- **A run sends clean requests only**, whatever its environment and the servers say. -/
theorem isClean_of_mem_requests {r : Http.Request} (h : r ∈ (ofRun env network).requests) :
    r.IsClean := by
  have hfull : r ∈ (full env network).requests := h
  by_cases hidle : ∀ request client, ¬ Employs env request client
  · rw [requests_full_of_idle hidle network] at hfull
    cases hfull
  · obtain ⟨request, client, employs⟩ : ∃ request client, Employs env request client := by
      simpa using hidle
    rw [employs.requests_full, Client.check_requests] at hfull
    obtain ⟨-, built⟩ := employs
    exact Client.isClean_of_mem_requests built hfull

theorem leaves_iff_of_idle (h : ∀ request client, ¬ Employs env request client)
    {left : List Bytes} : Leaves env network left ↔ left = network.replies := by
  constructor
  · intro hleaves
    cases hleaves with
    | called employs => exact absurd employs (h _ _)
    | uncalled => rfl
  · rintro rfl
    exact .uncalled h

end Clients

end Report

end CommitGate
