import CommitGate.Proofs.Call

/-!
# Where the credential goes

A credential is meant for the server of the client's base address. Of the requests of a call, the
first carries it, and each other one carries it just if it goes to the server of the one before. A
request that leaves for another server therefore goes without; one that stays at that other server
has it again. So the credential keeps to the base server just as long as no two requests in a row go
to one other server (`Client.confined_along_iff`).
-/

namespace CommitGate

open Http (Header Request Response)

/-- The request carries a header for credentials. -/
def Http.Request.CarriesCredential (r : Request) : Prop := r.values "authorization" ≠ []

instance : DecidablePred Request.CarriesCredential := fun r =>
  inferInstanceAs (Decidable (r.values "authorization" ≠ []))

/-- Two servers in a row are one, and it is not `home`. -/
def Lingers (home : Option Origin) (origins : List Origin) : Prop :=
  ∃ front origin behind, origins = front ++ origin :: origin :: behind ∧ home ≠ some origin

theorem not_lingers_nil (home : Option Origin) : ¬ Lingers home [] := by
  rintro ⟨front, origin, behind, h, -⟩
  simp at h

/-- Servers linger away from home at their start or further on. -/
theorem lingers_cons (home : Option Origin) (origin : Origin) (origins : List Origin) :
    Lingers home (origin :: origins) ↔
      (origins.head? = some origin ∧ home ≠ some origin) ∨ Lingers home origins := by
  constructor
  · rintro ⟨_ | ⟨_, front⟩, other, behind, h, hne⟩
    · simp only [List.nil_append, List.cons.injEq] at h
      obtain ⟨rfl, rfl⟩ := h
      exact .inl ⟨rfl, hne⟩
    · simp only [List.cons_append, List.cons.injEq] at h
      exact .inr ⟨front, other, behind, h.2, hne⟩
  · rintro (⟨hh, hne⟩ | ⟨front, other, behind, rfl, hne⟩)
    · obtain ⟨behind, rfl⟩ := List.head?_eq_some_iff.1 hh
      exact ⟨[], origin, behind, rfl, hne⟩
    · exact ⟨origin :: front, other, behind, rfl, hne⟩

/-! ### Along visits -/

@[simp] theorem origins_requestsAlong (saved : List Header) (carriesToken : Bool)
    (visits : List Visit) :
    (requestsAlong saved carriesToken visits).map Request.origin =
      visits.map fun visit => visit.origin := by
  induction visits generalizing saved carriesToken with
  | nil => rfl
  | cons visit visits ih => simp [requestsAlong, ih]

/-- What is saved holds a credential as long as it did: only requests go without. -/
theorem valuesOf_savedAfter (seesOther : Bool) (saved : List Header) :
    Http.valuesOf "authorization" (Http.savedAfter seesOther saved) =
      Http.valuesOf "authorization" saved := by
  cases seesOther
  · rfl
  · exact Http.valuesOf_without _ _ saved

/-- A request carries the credential if it is told to and there is one. -/
theorem carriesCredential_iff (origin : Origin) (target : Target) (carriesToken : Bool)
    (saved : List Header) :
    Request.CarriesCredential ⟨origin, target, Http.sentFrom carriesToken saved⟩ ↔
      carriesToken = true ∧ Http.valuesOf "authorization" saved ≠ [] := by
  unfold Request.CarriesCredential Request.values
  cases carriesToken
  · simp only [Http.sentFrom, Bool.false_eq_true, if_false, Http.valuesOf_without, false_and,
      iff_false, ne_eq, Classical.not_not]
    rfl
  · simp [Http.sentFrom]

/-- **The credential keeps to `home` along visits** just if none is saved, or the first visit goes home
if it is told to carry it, and the visits linger nowhere else. -/
theorem confined_along_iff (home : Option Origin) (saved : List Header) (carriesToken : Bool)
    (visits : List Visit) :
    (∀ r ∈ requestsAlong saved carriesToken visits, r.CarriesCredential → home = some r.origin) ↔
      Http.valuesOf "authorization" saved = [] ∨
        (carriesToken = true → ∀ visit, visits.head? = some visit → home = some visit.origin) ∧
          ¬ Lingers home (visits.map fun visit => visit.origin) := by
  induction visits generalizing saved carriesToken with
  | nil => simp [requestsAlong, not_lingers_nil]
  | cons visit visits ih =>
    have hrest := ih (Http.savedAfter visit.seesOther saved)
      (visits.head?.map (fun next => next.origin) == some visit.origin)
    rw [valuesOf_savedAfter] at hrest
    -- the next visit is told to carry it just if it stays at this server
    have hstay : ((visits.head?.map (fun next => next.origin) == some visit.origin) = true →
        ∀ v, visits.head? = some v → home = some v.origin) ↔
          (visits.head?.map (fun next => next.origin) = some visit.origin →
            home = some visit.origin) := by
      rcases hh : visits.head? with _ | next
      · simp
      · simp only [Option.map_some, beq_iff_eq, Option.some.injEq, forall_eq']
        exact ⟨fun h he => he ▸ h he, fun h he => he ▸ h he⟩
    rw [requestsAlong, List.forall_mem_cons, hrest, hstay, carriesCredential_iff, List.map_cons,
      lingers_cons, List.head?_map]
    simp only [List.head?_cons, Option.some.injEq, forall_eq']
    by_cases hnone : Http.valuesOf "authorization" saved = []
    · simp [hnone]
    · simp only [hnone, not_false_eq_true, and_true, false_or, ne_eq, not_or, not_and,
        Classical.not_not]

namespace Client

variable (client : Client)

/-- The values of the header for credentials, as the client writes it. -/
theorem values_authorization :
    Http.valuesOf "authorization" client.headers =
      client.token.toList.map fun token => "Bearer " ++ token.expose := by
  rcases ht : client.token with _ | token <;> simp [headers, Http.valuesOf, ht]

theorem values_authorization_eq_nil_iff :
    Http.valuesOf "authorization" client.headers = [] ↔ client.token = none := by
  rw [values_authorization]
  simp

/-! ### The requests of a call -/

/-- **The credential keeps to the base server** through a call just if there is none, or no two
requests in a row go to one other server. -/
theorem credential_confined_iff (network : Network) (repository commit required : String) :
    (client.check network repository commit required).requests =
        (client.combinedStatus network repository commit).requests ∧
      ((∀ r ∈ (client.combinedStatus network repository commit).requests,
          r.CarriesCredential → client.base.origin? = some r.origin) ↔
        client.token = none ∨
          ¬ Lingers client.base.origin?
              ((client.combinedStatus network repository commit).requests.map Request.origin)) := by
  refine ⟨check_requests .., ?_⟩
  obtain ⟨visits, hv, hhead⟩ :=
    client.exists_fetch_requests_eq network (statusRoute repository commit)
  rw [combinedStatus_eq_fetch, hv, confined_along_iff, values_authorization_eq_nil_iff,
    origins_requestsAlong, and_iff_right fun _ => hhead]

/-- A credential that leaves home: the base server sends the client on to another one, which sends it
on to itself. The third request carries the credential. -/
theorem credential_leaves_home :
    let client : Client :=
      { base := { scheme := some .http, authority := "stub".toList, target := { path := ['/'] } }
        token := some ⟨"t0ken"⟩
        timeout := none }
    let replies : List Http.Reply :=
      [{ status := "302 Found", location := some "http://other/a", body := [] },
        { status := "302 Found", location := some "http://other/b", body := [] },
        { body := Text.toBytes "[]".toList }]
    let network : Network := { listens := fun _ => true, replies := replies.map Http.Reply.toBytes }
    ¬ ∀ r ∈ (client.combinedStatus network "octo/widgets" "abc123").requests,
        r.CarriesCredential → client.base.origin? = some r.origin := by
  decide +kernel

end Client

end CommitGate
