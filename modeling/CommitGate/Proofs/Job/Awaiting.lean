import CommitGate.Proofs.Job.Channel

/-!
# Awaiting jobs

Each handle gives the result of its own job, once, however the turns of the jobs and the looks at
their handles are mixed (`Job.handle_resolves_once`). Three ways to await are told apart:

* any events at all — a handle has given its result just if it was looked at late enough;
* endless schedules — a handle that is served (`Serves`) gives its result at some time;
* handles awaited one after another (`JobPool.Awaits`) — the results come in the order of awaiting,
  and that is what `Job.awaitAll` gives.
-/

namespace CommitGate

variable {α : Type}

/-! ### Schedules -/

/-- The first `n` events of a schedule. -/
def firstEvents (schedule : Nat → JobEvent) (n : Nat) : List JobEvent :=
  (List.range n).map schedule

theorem firstEvents_succ (schedule : Nat → JobEvent) (n : Nat) :
    firstEvents schedule (n + 1) = firstEvents schedule n ++ [schedule n] := by
  simp [firstEvents, List.range_succ]

namespace JobPool

/-- The job works still. -/
def Works (pool : JobPool α) (i : Nat) : Prop :=
  ∃ pauses ending, pool.stages[i]? = some (.working pauses ending)

/-- The result of the job can be had. -/
def HasSettled (pool : JobPool α) (i : Nat) : Prop :=
  ∃ result, pool.stages[i]? = some (.settled result)

end JobPool

/-- **A schedule serves a handle**: its job has another turn as long as it works, the handle is
awaited, and whoever looked at it too early looks again when the job has settled. -/
structure Serves (jobs : List (Job α)) (schedule : Nat → JobEvent) (i : Nat) : Prop where
  turns : ∀ n, ((JobPool.start jobs).run (firstEvents schedule n)).Works i →
    ∃ m ≥ n, schedule m = .turn i
  awaited : ∃ n, schedule n = .look i
  woken : ∀ n, schedule n = .look i →
    ((JobPool.start jobs).run (firstEvents schedule n)).Works i →
    ∀ m ≥ n, ((JobPool.start jobs).run (firstEvents schedule m)).HasSettled i →
    ∃ k ≥ m, schedule k = .look i

section Schedules

variable {jobs : List (Job α)} {job : Job α} {schedule : Nat → JobEvent} {i needed n m : Nat}

theorem answered_firstEvents_succ :
    Answered i needed (firstEvents schedule (n + 1)) ↔
      Answered i needed (firstEvents schedule n) ∨
        schedule n = .look i ∧ needed ≤ (firstEvents schedule n).count (.turn i) := by
  rw [firstEvents_succ, answered_concat_iff]

/-- A handle that is answered stays so. -/
theorem answered_firstEvents_mono (h : Answered i needed (firstEvents schedule n)) (hle : n ≤ m) :
    Answered i needed (firstEvents schedule m) := by
  induction hle with
  | refl => exact h
  | step _ ih => exact answered_firstEvents_succ.2 (.inl ih)

theorem count_firstEvents_mono (hle : n ≤ m) :
    (firstEvents schedule n).count (.turn i) ≤ (firstEvents schedule m).count (.turn i) := by
  induction hle with
  | refl => exact Nat.le_refl _
  | step _ ih =>
    rw [firstEvents_succ, List.count_append]
    omega

/-- A job that is served has all its turns at some time. -/
theorem Serves.exists_ready (h : Serves jobs schedule i) (hjob : jobs[i]? = some job) :
    ∃ n, job.turnsNeeded ≤ (firstEvents schedule n).count (.turn i) := by
  have hmore : ∀ k ≤ job.turnsNeeded, ∃ n, k ≤ (firstEvents schedule n).count (.turn i) := by
    intro k
    induction k with
    | zero => exact fun _ => ⟨0, Nat.zero_le _⟩
    | succ k ih =>
      intro hk
      obtain ⟨n, hn⟩ := ih (Nat.le_of_succ_le hk)
      by_cases hready : job.turnsNeeded ≤ (firstEvents schedule n).count (.turn i)
      · exact ⟨n, Nat.le_trans hk hready⟩
      -- the job lacks turns, so it works, and has another one at `m`
      obtain ⟨stage, hstage, hstands⟩ := JobPool.stands_run hjob (firstEvents schedule n)
      obtain ⟨pauses, ending, rfl⟩ := hstands.eq_working (Nat.not_le.1 hready)
      obtain ⟨m, hm, hturn⟩ := h.turns n ⟨pauses, ending, hstage⟩
      have hcount : (firstEvents schedule n).count (.turn i) ≤
          (firstEvents schedule m).count (.turn i) := count_firstEvents_mono hm
      refine ⟨m + 1, ?_⟩
      rw [firstEvents_succ, List.count_append, hturn, List.count_singleton_self]
      omega
  exact hmore _ (Nat.le_refl _)

/-- **A handle that is served is answered** at some time. -/
theorem Serves.exists_answered (h : Serves jobs schedule i) (hjob : jobs[i]? = some job) :
    ∃ n, Answered i job.turnsNeeded (firstEvents schedule n) := by
  obtain ⟨m, hready⟩ := h.exists_ready hjob
  obtain ⟨n, hlook⟩ := h.awaited
  by_cases hn : job.turnsNeeded ≤ (firstEvents schedule n).count (.turn i)
  · exact ⟨n + 1, answered_firstEvents_succ.2 (.inr ⟨hlook, hn⟩)⟩
  -- the look comes too early: the job works, and has settled by `m` unless it was answered
  have hle : n ≤ m := by
    by_contra hlt
    exact hn (Nat.le_trans hready (count_firstEvents_mono (Nat.le_of_not_le hlt)))
  by_cases hanswered : Answered i job.turnsNeeded (firstEvents schedule m)
  · exact ⟨m, hanswered⟩
  obtain ⟨stage, hstage, hstands⟩ := JobPool.stands_run hjob (firstEvents schedule n)
  obtain ⟨pauses, ending, rfl⟩ := hstands.eq_working (Nat.not_le.1 hn)
  obtain ⟨stage', hstage', hstands'⟩ := JobPool.stands_run hjob (firstEvents schedule m)
  rw [hstands'.eq_settled hready hanswered] at hstage'
  obtain ⟨k, hk, hagain⟩ := h.woken n hlook ⟨pauses, ending, hstage⟩ m hle ⟨job.result, hstage'⟩
  have hready' := Nat.le_trans hready (count_firstEvents_mono hk)
  exact ⟨k + 1, answered_firstEvents_succ.2 (.inr ⟨hagain, hready'⟩)⟩

/-- From then on it has given the result of its job, once. -/
theorem Serves.exists_handedOut (h : Serves jobs schedule i) (hjob : jobs[i]? = some job) :
    ∃ n, ∀ m ≥ n, ((JobPool.start jobs).run (firstEvents schedule m)).handedOut i =
      [job.result] := by
  obtain ⟨n, hanswered⟩ := h.exists_answered hjob
  exact ⟨n, fun m hm =>
    JobPool.handedOut_of_answered hjob (answered_firstEvents_mono hanswered hm)⟩

/-- A schedule that gives the job a turn and then looks at its handle, over and over, serves it. -/
theorem serves_alternating (jobs : List (Job α)) (i : Nat) :
    Serves jobs (fun n => if n % 2 = 0 then .turn i else .look i) i := by
  have hturn : ∀ n, ∃ m ≥ n, (if m % 2 = 0 then JobEvent.turn i else .look i) = .turn i := by
    intro n
    exact ⟨2 * n, by omega, if_pos (by omega)⟩
  have hlook : ∀ n, ∃ m ≥ n, (if m % 2 = 0 then JobEvent.turn i else .look i) = .look i := by
    intro n
    exact ⟨2 * n + 1, by omega, if_neg (by omega)⟩
  refine ⟨fun n _ => hturn n, ?_, fun _ _ _ m _ _ => hlook m⟩
  obtain ⟨m, -, hm⟩ := hlook 0
  exact ⟨m, hm⟩

end Schedules

/-! ### One after another -/

namespace JobPool

/-- **The events await handles one after another**, in this order: each is looked at until its job
has settled, and then the next one is. Jobs take their turns in between. -/
inductive Awaits : JobPool α → List JobEvent → (order : List Nat) → Prop
  | done {pool : JobPool α} : Awaits pool [] []
  | turn {pool : JobPool α} {j : Nat} {events : List JobEvent} {order : List Nat}
      (rest : Awaits (pool.next (.turn j)) events order) : Awaits pool (.turn j :: events) order
  /-- The look comes too early. -/
  | early {pool : JobPool α} {i : Nat} {events : List JobEvent} {order : List Nat}
      (waits : ¬ pool.HasSettled i) (rest : Awaits pool events (i :: order)) :
      Awaits pool (.look i :: events) (i :: order)
  | resolves {pool : JobPool α} {i : Nat} {events : List JobEvent} {order : List Nat}
      (settled : pool.HasSettled i) (rest : Awaits (pool.next (.look i)) events order) :
      Awaits pool (.look i :: events) (i :: order)

/-- What is handed out for the job with this number: its result. -/
def HandsOut (jobs : List (Job α)) (i : Nat) (out : Nat × Except JobError α) : Prop :=
  ∃ job, jobs[i]? = some job ∧ out = (i, job.result)

section Orders

variable {jobs : List (Job α)} {before events : List JobEvent} {order : List Nat} {i : Nat}

/-- What a job has settled with is its result. -/
theorem eq_result_of_settled {result : Except JobError α}
    (h : ((start jobs).run before).stages[i]? = some (.settled result)) :
    ∃ job, jobs[i]? = some job ∧ result = job.result := by
  obtain ⟨hlt, -⟩ := List.getElem?_eq_some_iff.1 h
  have hlength : ((start jobs).run before).stages.length = jobs.length := by
    rw [length_run, start, List.length_map]
  rw [hlength] at hlt
  obtain ⟨job, hjob⟩ : ∃ job, jobs[i]? = some job := ⟨_, List.getElem?_eq_getElem hlt⟩
  obtain ⟨stage, hstage, hstands⟩ := stands_run hjob before
  cases h.symm.trans hstage
  exact ⟨job, hjob, hstands.result_eq⟩

/-- Awaiting goes on from where other events have led. -/
theorem Awaits.exists_resolved (h : ((start jobs).run before).Awaits events order) :
    ∃ out, ((start jobs).run (before ++ events)).resolved =
        ((start jobs).run before).resolved ++ out ∧ List.Forall₂ (HandsOut jobs) order out := by
  generalize hpool : (start jobs).run before = pool at h
  induction h generalizing before with
  | done => exact ⟨[], by rw [List.append_nil, List.append_nil, hpool], .nil⟩
  | @turn pool j events order rest ih =>
    have hnext : (start jobs).run (before ++ [.turn j]) = pool.next (.turn j) := by
      rw [run_concat, hpool]
    obtain ⟨out, hresolved, hout⟩ := ih hnext
    rw [List.append_assoc] at hresolved
    exact ⟨out, hresolved, hout⟩
  | @early pool i events order waits rest ih =>
    have hnext : (start jobs).run (before ++ [.look i]) = pool := by
      rw [run_concat, hpool, next_look_of_not_settled (not_exists.1 waits)]
    obtain ⟨out, hresolved, hout⟩ := ih hnext
    rw [List.append_assoc] at hresolved
    exact ⟨out, hresolved, hout⟩
  | @resolves pool i events order settled rest ih =>
    obtain ⟨result, hsettled⟩ := settled
    have hnext : (start jobs).run (before ++ [.look i]) = pool.next (.look i) := by
      rw [run_concat, hpool]
    obtain ⟨out, hresolved, hout⟩ := ih hnext
    rw [List.append_assoc, next_look_of_settled hsettled, List.append_assoc] at hresolved
    have hhands : HandsOut jobs i (i, result) := by
      rw [← hpool] at hsettled
      obtain ⟨job, hjob, rfl⟩ := eq_result_of_settled hsettled
      exact ⟨job, hjob, rfl⟩
    exact ⟨(i, result) :: out, hresolved, .cons hhands hout⟩

/-- **Handles that are awaited one after another give their results in this order.** -/
theorem Awaits.resolved_run (h : (start jobs).Awaits events order) :
    List.Forall₂ (HandsOut jobs) order ((start jobs).run events).resolved := by
  have hstart : ((start jobs).run []).Awaits events order := h
  obtain ⟨out, hresolved, hout⟩ := hstart.exists_resolved
  have hout' : ((start jobs).run events).resolved = out := hresolved
  rw [hout']
  exact hout

/-! ### Each until its job has settled -/

theorem Awaits.turns {pool : JobPool α} (n : Nat)
    (rest : (pool.run (List.replicate n (.turn i))).Awaits events order) :
    pool.Awaits (List.replicate n (.turn i) ++ events) order := by
  induction n generalizing pool with
  | zero => exact rest
  | succ n ih => exact .turn (ih rest)

/-- Giving each job its turns and then looking at its handle awaits the handles in order. -/
theorem awaits_awaiting (hnodup : order.Nodup) (hmem : ∀ i ∈ order, i < jobs.length)
    (hfresh : ∀ e ∈ before, e.job ∉ order) :
    ((start jobs).run before).Awaits ((start jobs).awaiting order) order := by
  induction order generalizing before with
  | nil => exact .done
  | cons i order ih =>
    obtain ⟨job, hjob⟩ : ∃ job, jobs[i]? = some job :=
      ⟨_, List.getElem?_eq_getElem (hmem i List.mem_cons_self)⟩
    have hneeded : (((start jobs).stages[i]?).map Stage.turnsLeft).getD 0 = job.turnsNeeded := by
      simp [start, hjob, Job.turnsNeeded]
    rw [awaiting, List.flatMap_cons, hneeded, List.append_assoc]
    refine Awaits.turns _ ?_
    rw [← run_append]
    -- with its turns, the job has settled: nobody has looked at its handle yet
    have hlook : JobEvent.look i ∉
        before ++ List.replicate job.turnsNeeded (JobEvent.turn i) := by
      intro h
      rcases List.mem_append.1 h with h | h
      · exact hfresh _ h List.mem_cons_self
      · cases List.eq_of_mem_replicate h
    obtain ⟨stage, hstage, hstands⟩ := stands_run hjob
      (before ++ List.replicate job.turnsNeeded (JobEvent.turn i))
    have hready : job.turnsNeeded ≤
        (before ++ List.replicate job.turnsNeeded (JobEvent.turn i)).count (.turn i) := by
      rw [List.count_append, List.count_replicate_self]
      exact Nat.le_add_left _ _
    rw [hstands.eq_settled hready (not_answered_of_not_mem hlook)] at hstage
    refine .resolves ⟨_, hstage⟩ ?_
    rw [← run_concat]
    obtain ⟨hi, hnodup⟩ := List.nodup_cons.1 hnodup
    refine ih hnodup (fun j hj => hmem j (List.mem_cons_of_mem _ hj)) fun e he => ?_
    rcases List.mem_append.1 he with he | he
    · rcases List.mem_append.1 he with he | he
      · exact fun h => hfresh e he (List.mem_cons_of_mem _ h)
      · rw [List.eq_of_mem_replicate he]
        exact hi
    · rw [List.mem_singleton.1 he]
      exact hi

theorem forall₂_awaitAll (hnodup : order.Nodup) (hmem : ∀ i ∈ order, i < jobs.length) :
    List.Forall₂ (HandsOut jobs) order (Job.awaitAll jobs order) := by
  have hfresh : ∀ e ∈ ([] : List JobEvent), e.job ∉ order := by simp
  have hawaits : (start jobs).Awaits ((start jobs).awaiting order) order :=
    awaits_awaiting hnodup hmem hfresh
  exact hawaits.resolved_run

end Orders

/-- **The handle of a job gives this result once**: to the first look that comes late enough, and
nothing to any other; at some time under every schedule that serves it; and whatever the other jobs
are, and do, and in whichever order they are awaited. -/
structure ResolvesOnce (jobs : List (Job α)) (i : Nat) (job : Job α) : Prop where
  answered : ∀ events, Answered i job.turnsNeeded events →
    ((start jobs).run events).handedOut i = [job.result]
  unanswered : ∀ events, ¬ Answered i job.turnsNeeded events →
    ((start jobs).run events).handedOut i = []
  served : ∀ schedule, Serves jobs schedule i →
    ∃ n, ∀ m ≥ n, ((start jobs).run (firstEvents schedule m)).handedOut i = [job.result]
  alone : ∀ jobs' events events', jobs'[i]? = some job →
    ((events.filter fun e => e.job == i) = events'.filter fun e => e.job == i) →
    ((start jobs).run events).handedOut i = ((start jobs').run events').handedOut i

end JobPool

/-- **A handle resolves once, to the result of its own job.** The result is a value just if the work
ended with it or the channel held it, and an error just if the other end of the channel went away.
Handles that are awaited one after another give their results in that order. -/
theorem Job.handle_resolves_once {jobs : List (Job α)} {i : Nat} {job : Job α}
    (hjob : jobs[i]? = some job) :
    JobPool.ResolvesOnce jobs i job ∧
      (∀ a, job.result = .ok a ↔ job.Delivers a) ∧
      (∀ e, job.result = .error e ↔ job.GoesAway) ∧
      (∀ events order, (JobPool.start jobs).Awaits events order →
        List.Forall₂ (JobPool.HandsOut jobs) order ((JobPool.start jobs).run events).resolved) ∧
      ∀ order, order.Nodup → (∀ j ∈ order, j < jobs.length) →
        List.Forall₂ (JobPool.HandsOut jobs) order (awaitAll jobs order) := by
  refine ⟨⟨?_, ?_, ?_, ?_⟩, fun a => result_eq_ok_iff, fun e => result_eq_error_iff,
    fun events order h => h.resolved_run, fun order => JobPool.forall₂_awaitAll⟩
  · exact fun events h => JobPool.handedOut_of_answered hjob h
  · exact fun events h => JobPool.handedOut_of_unanswered hjob h
  · intro schedule hserves
    obtain ⟨n, hanswered⟩ := hserves.exists_answered hjob
    refine ⟨n, fun m hm => ?_⟩
    exact JobPool.handedOut_of_answered hjob (answered_firstEvents_mono hanswered hm)
  · exact fun jobs' events events' hjob' => JobPool.handedOut_congr hjob hjob'

/-- A job that pauses, among one that crashes and one whose channel is full: its handle is looked at
too early, and again behind a crash and the handle of the other. A schedule of turns and looks in
turn serves it, too. -/
theorem Job.handle_resolves_among_crashes :
    let jobs : List (Job Nat) := [.spawned 1 .crash, .spawned 1 (.value 7), .filled 3]
    let events : List JobEvent :=
      [.turn 1, .look 1, .turn 0, .turn 0, .look 2, .turn 1, .look 0, .look 1, .look 1]
    let schedule : Nat → JobEvent := fun n => if n % 2 = 0 then .turn 1 else .look 1
    jobs[1]? = some (.spawned 1 (.value 7)) ∧
      ((JobPool.start jobs).run events).handedOut 1 = [.ok 7] ∧
      ∃ n, ∀ m ≥ n, ((JobPool.start jobs).run (firstEvents schedule m)).handedOut 1 = [.ok 7] := by
  intro jobs events schedule
  have hjob : jobs[1]? = some (.spawned 1 (.value 7)) := rfl
  obtain ⟨hresolves, -⟩ := handle_resolves_once hjob
  have hanswered : Answered 1 2 events :=
    ⟨[.turn 1, .look 1, .turn 0, .turn 0, .look 2, .turn 1, .look 0], [.look 1], rfl, by decide⟩
  exact ⟨hjob, hresolves.answered events hanswered,
    hresolves.served schedule (serves_alternating jobs 1)⟩

end CommitGate
