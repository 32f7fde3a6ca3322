import CommitGate.Job
import Mathlib.Data.List.Induction

/-!
# What the handle of a job gives

A job among others, under any order of turns and looks. Where it stands depends on the turns that it
has had and on whether its handle was looked at behind the last one that it needs (`Job.Stands`);
each event keeps that (`Job.Stands.turn`, `Job.Stands.look`), and so does a run
(`JobPool.stands_run`). So a handle gives the result of its job once, to the first look that comes
late enough, and nothing to all others (`JobPool.handedOut_of_answered`,
`JobPool.handedOut_of_unanswered`).
-/

namespace CommitGate

variable {α : Type}

/-! ### What a job comes to -/

namespace Job

/-- **The value gets into the channel**: the work ends with it, or the channel holds it already. -/
inductive Delivers : Job α → α → Prop
  | ended (pauses : Nat) (a : α) : Delivers (.spawned pauses (.value a)) a
  | held (a : α) : Delivers (.filled a) a

/-- **The other end of the channel goes away** without putting a value in. -/
inductive GoesAway : Job α → Prop
  | crashed (pauses : Nat) : GoesAway (.spawned pauses .crash)
  | abandoned : GoesAway .abandoned

variable {job : Job α}

theorem result_eq_ok_iff {a : α} : job.result = .ok a ↔ job.Delivers a := by
  constructor
  · intro h
    rcases job with ⟨pauses, a' | _⟩ | a' | _
    · cases h
      exact .ended pauses a
    · cases h
    · cases h
      exact .held a
    · cases h
  · rintro (⟨pauses, a⟩ | a)
    · rfl
    · rfl

theorem result_eq_error_iff {e : JobError} : job.result = .error e ↔ job.GoesAway := by
  constructor
  · intro h
    rcases job with ⟨pauses, a | _⟩ | a | _
    · cases h
    · exact .crashed pauses
    · cases h
    · exact .abandoned
  · rintro (pauses | _)
    · rfl
    · rfl

/-- The number of turns until the result of a job can be had. -/
def turnsNeeded (job : Job α) : Nat := (Stage.start job).turnsLeft

end Job

/-! ### One event -/

namespace Stage

/-- Where a job is after a look at its handle. -/
def look : Stage α → Stage α
  | settled _ => resolved
  | stage => stage

/-- What a look at the handle gives. -/
def given : Stage α → List (Except JobError α)
  | settled result => [result]
  | _ => []

end Stage

/-- The job that an event is about. -/
def JobEvent.job : JobEvent → Nat
  | turn i => i
  | look i => i

namespace JobPool

variable {pool : JobPool α} {i j : Nat} {events : List JobEvent} {e : JobEvent}

/-- What was handed out for a job, in order. -/
def handedOut (pool : JobPool α) (i : Nat) : List (Except JobError α) :=
  (pool.resolved.filter fun p => p.1 == i).map Prod.snd

theorem getElem?_next_turn :
    (pool.next (.turn j)).stages[i]? =
      if j = i then pool.stages[i]?.map Stage.turn else pool.stages[i]? := by
  simp only [next, List.getElem?_modify]
  split
  · rfl
  · simp

/-- A look at a job that has not settled changes nothing. -/
theorem next_look_of_not_settled (h : ∀ result, pool.stages[j]? ≠ some (.settled result)) :
    pool.next (.look j) = pool := by
  unfold next
  rcases hs : pool.stages[j]? with _ | _ | result | _
  · simp only [hs]
  · simp only [hs]
  · exact absurd hs (h result)
  · simp only [hs]

theorem next_look_of_settled {result : Except JobError α}
    (h : pool.stages[j]? = some (.settled result)) :
    pool.next (.look j) =
      { stages := pool.stages.set j .resolved, resolved := pool.resolved ++ [(j, result)] } := by
  simp only [next, h]

theorem getElem?_next_look :
    (pool.next (.look j)).stages[i]? =
      if j = i then pool.stages[i]?.map Stage.look else pool.stages[i]? := by
  by_cases h : ∃ result, pool.stages[j]? = some (.settled result)
  · obtain ⟨result, h⟩ := h
    obtain ⟨hlt, -⟩ := List.getElem?_eq_some_iff.1 h
    rw [next_look_of_settled h, List.getElem?_set]
    by_cases hji : j = i
    · subst hji
      rw [if_pos rfl, if_pos hlt, if_pos rfl, h]
      rfl
    · rw [if_neg hji, if_neg hji]
  · rw [next_look_of_not_settled (not_exists.1 h)]
    by_cases hji : j = i
    · subst hji
      rw [if_pos rfl]
      rcases hs : pool.stages[j]? with _ | _ | result | _
      · rfl
      · rfl
      · exact absurd ⟨result, hs⟩ h
      · rfl
    · rw [if_neg hji]

theorem handedOut_next_turn : (pool.next (.turn j)).handedOut i = pool.handedOut i := rfl

theorem handedOut_next_look :
    (pool.next (.look j)).handedOut i =
      pool.handedOut i ++ if j = i then (pool.stages[i]?.map Stage.given).getD [] else [] := by
  by_cases h : ∃ result, pool.stages[j]? = some (.settled result)
  · obtain ⟨result, h⟩ := h
    rw [next_look_of_settled h]
    by_cases hji : j = i
    · subst hji
      simp [handedOut, h, Stage.given]
    · simp [handedOut, hji]
  · rw [next_look_of_not_settled (not_exists.1 h)]
    by_cases hji : j = i
    · subst hji
      rcases hs : pool.stages[j]? with _ | _ | result | _
      · simp
      · simp [Stage.given]
      · exact absurd ⟨result, hs⟩ h
      · simp [Stage.given]
    · simp [hji]

theorem run_append (pool : JobPool α) (events events' : List JobEvent) :
    pool.run (events ++ events') = (pool.run events).run events' := List.foldl_append

theorem run_concat (pool : JobPool α) (events : List JobEvent) (e : JobEvent) :
    pool.run (events ++ [e]) = (pool.run events).next e := run_append pool events [e]

theorem length_next (pool : JobPool α) (e : JobEvent) :
    (pool.next e).stages.length = pool.stages.length := by
  cases e with
  | turn j => simp [next]
  | look j =>
    by_cases h : ∃ result, pool.stages[j]? = some (.settled result)
    · obtain ⟨result, h⟩ := h
      simp [next_look_of_settled h]
    · rw [next_look_of_not_settled (not_exists.1 h)]

theorem length_run (pool : JobPool α) (events : List JobEvent) :
    (pool.run events).stages.length = pool.stages.length := by
  induction events generalizing pool with
  | nil => rfl
  | cons e events ih => exact (ih (pool.next e)).trans (length_next pool e)

end JobPool

/-! ### Looks that are answered -/

/-- **A look is answered**: one of the events is a look at the job behind at least `needed` of its
turns. -/
def Answered (i needed : Nat) (events : List JobEvent) : Prop :=
  ∃ front behind, events = front ++ .look i :: behind ∧ needed ≤ front.count (.turn i)

section Answers

variable {i needed : Nat} {events events' : List JobEvent} {e : JobEvent}

theorem answered_concat_iff :
    Answered i needed (events ++ [e]) ↔
      Answered i needed events ∨ e = .look i ∧ needed ≤ events.count (.turn i) := by
  constructor
  · rintro ⟨front, behind, h, hturns⟩
    rcases List.eq_nil_or_concat behind with rfl | ⟨behind, last, rfl⟩
    · obtain ⟨rfl, he⟩ := List.append_inj' h rfl
      cases he
      exact .inr ⟨rfl, hturns⟩
    · rw [List.concat_eq_append, ← List.cons_append, ← List.append_assoc] at h
      obtain ⟨rfl, -⟩ := List.append_inj' h rfl
      exact .inl ⟨front, behind, rfl, hturns⟩
  · rintro (⟨front, behind, rfl, hturns⟩ | ⟨rfl, hturns⟩)
    · exact ⟨front, behind ++ [e], by simp, hturns⟩
    · exact ⟨events, [], rfl, hturns⟩

theorem not_answered_of_not_mem (h : JobEvent.look i ∉ events) : ¬ Answered i needed events := by
  rintro ⟨front, behind, rfl, -⟩
  simp at h

/-- Whether a look is answered depends on the events about its job alone. -/
theorem answered_filter_iff :
    Answered i needed (events.filter fun e => e.job == i) ↔ Answered i needed events := by
  induction events using List.reverseRecOn with
  | nil => rfl
  | append_singleton events e ih =>
    rw [List.filter_append, answered_concat_iff]
    by_cases he : e.job = i
    · have hcount : (events.filter fun e => e.job == i).count (.turn i) =
          events.count (.turn i) := List.count_filter (by simp [JobEvent.job])
      rw [List.filter_cons_of_pos (by simpa using he), List.filter_nil, answered_concat_iff, ih,
        hcount]
    · have hlook : e ≠ .look i := by
        rintro rfl
        exact he rfl
      rw [List.filter_cons_of_neg (by simpa using he), List.filter_nil, List.append_nil, ih]
      simp [hlook]

end Answers

/-! ### Where a job stands -/

/-- **Where a job stands** that has had a number of turns, and whose handle has been answered or has
not: its stage, and what was handed out for it. -/
inductive Job.Stands : (job : Job α) → (turns : Nat) → (answered : Prop) → Stage α →
    List (Except JobError α) → Prop
  | works {pauses turns : Nat} {answered : Prop} {ending : Ending α} (early : turns ≤ pauses)
      (unanswered : ¬ answered) :
      Stands (.spawned pauses ending) turns answered (.working (pauses - turns) ending) []
  | settled {job : Job α} {turns : Nat} {answered : Prop} (ready : job.turnsNeeded ≤ turns)
      (unanswered : ¬ answered) : Stands job turns answered (.settled job.result) []
  | resolved {job : Job α} {turns : Nat} {answered : Prop} (ready : job.turnsNeeded ≤ turns)
      (isAnswered : answered) : Stands job turns answered .resolved [job.result]

section Standing

variable {jobs : List (Job α)} {job : Job α} {i turns : Nat} {answered : Prop} {stage : Stage α}
  {out : List (Except JobError α)}

theorem Job.stands_start (job : Job α) (h : ¬ answered) :
    job.Stands 0 answered (Stage.start job) [] := by
  rcases job with ⟨pauses, ending⟩ | a | _
  · exact .works (Nat.zero_le _) h
  · exact .settled (Nat.zero_le _) h
  · exact .settled (Nat.zero_le _) h

/-- A turn takes a job that works one pause further, or to its end. -/
theorem Job.Stands.turn (h : job.Stands turns answered stage out) :
    job.Stands (turns + 1) answered stage.turn out := by
  cases h with
  | @works pauses _ _ ending early unanswered =>
    rcases Nat.lt_or_eq_of_le early with hlt | rfl
    · have hleft : pauses - turns = pauses - (turns + 1) + 1 := by omega
      rw [hleft]
      exact .works hlt unanswered
    · rw [Nat.sub_self]
      exact .settled (Nat.le_refl _) unanswered
  | settled ready unanswered => exact .settled (Nat.le_succ_of_le ready) unanswered
  | resolved ready isAnswered => exact .resolved (Nat.le_succ_of_le ready) isAnswered

/-- A look hands out the result of a job that has settled, and nothing of any other. -/
theorem Job.Stands.look (h : job.Stands turns answered stage out) :
    job.Stands turns (answered ∨ job.turnsNeeded ≤ turns) stage.look (out ++ stage.given) := by
  cases h with
  | @works pauses _ _ ending early unanswered =>
    have hneeded : ¬ (Job.spawned pauses ending).turnsNeeded ≤ turns := by
      simp only [Job.turnsNeeded, Stage.start, Stage.turnsLeft]
      omega
    exact .works early (not_or.2 ⟨unanswered, hneeded⟩)
  | settled ready unanswered => exact .resolved ready (.inr ready)
  | resolved ready isAnswered => exact .resolved ready (.inl isAnswered)

/-- A job that has had its turns and was not answered has settled. -/
theorem Job.Stands.eq_settled (h : job.Stands turns answered stage out)
    (ready : job.turnsNeeded ≤ turns) (unanswered : ¬ answered) : stage = .settled job.result := by
  cases h with
  | @works pauses _ _ ending early =>
    simp only [Job.turnsNeeded, Stage.start, Stage.turnsLeft] at ready
    omega
  | settled => rfl
  | resolved _ isAnswered => exact absurd isAnswered unanswered

theorem Job.Stands.result_eq {result : Except JobError α}
    (h : job.Stands turns answered (.settled result) out) : result = job.result := by
  cases h with
  | settled => rfl

/-- A job that lacks turns works. -/
theorem Job.Stands.eq_working (h : job.Stands turns answered stage out)
    (early : turns < job.turnsNeeded) : ∃ pauses ending, stage = .working pauses ending := by
  cases h with
  | works => exact ⟨_, _, rfl⟩
  | settled ready | resolved ready => exact absurd ready (Nat.not_le.2 early)

namespace JobPool

/-- **Where a job stands after a run**, whatever the other jobs do and in whichever order. -/
theorem stands_run (hjob : jobs[i]? = some job) (events : List JobEvent) :
    ∃ stage, ((start jobs).run events).stages[i]? = some stage ∧
      job.Stands (events.count (.turn i)) (Answered i job.turnsNeeded events) stage
        (((start jobs).run events).handedOut i) := by
  induction events using List.reverseRecOn with
  | nil =>
    refine ⟨Stage.start job, by simp [run, start, hjob], ?_⟩
    exact job.stands_start (not_answered_of_not_mem List.not_mem_nil)
  | append_singleton events e ih =>
    obtain ⟨stage, hstage, hstands⟩ := ih
    rw [run_concat]
    simp only [answered_concat_iff, List.count_append]
    cases e with
    | turn j =>
      rw [getElem?_next_turn, handedOut_next_turn, hstage]
      by_cases hj : j = i
      · subst hj
        refine ⟨stage.turn, by simp, ?_⟩
        simpa using hstands.turn
      · refine ⟨stage, if_neg hj, ?_⟩
        simpa [List.count_singleton, hj] using hstands
    | look j =>
      rw [getElem?_next_look, handedOut_next_look, hstage]
      by_cases hj : j = i
      · subst hj
        refine ⟨stage.look, by simp, ?_⟩
        simpa [List.count_singleton] using hstands.look
      · refine ⟨stage, if_neg hj, ?_⟩
        simpa [List.count_singleton, hj] using hstands

/-- **A handle that is answered gives the result of its job**, and gives it once. -/
theorem handedOut_of_answered (hjob : jobs[i]? = some job) {events : List JobEvent}
    (h : Answered i job.turnsNeeded events) :
    ((start jobs).run events).handedOut i = [job.result] := by
  obtain ⟨stage, -, hstands⟩ := stands_run hjob events
  generalize ((start jobs).run events).handedOut i = out at hstands ⊢
  cases hstands with
  | works _ unanswered | settled _ unanswered => exact absurd h unanswered
  | resolved => rfl

theorem handedOut_of_unanswered (hjob : jobs[i]? = some job) {events : List JobEvent}
    (h : ¬ Answered i job.turnsNeeded events) : ((start jobs).run events).handedOut i = [] := by
  obtain ⟨stage, -, hstands⟩ := stands_run hjob events
  generalize ((start jobs).run events).handedOut i = out at hstands ⊢
  cases hstands with
  | works | settled => rfl
  | resolved _ isAnswered => exact absurd isAnswered h

/-- What a handle gives depends on its job and on the events about that alone. -/
theorem handedOut_congr {jobs' : List (Job α)} {events events' : List JobEvent}
    (hjob : jobs[i]? = some job) (hjob' : jobs'[i]? = some job)
    (hevents : (events.filter fun e => e.job == i) = events'.filter fun e => e.job == i) :
    ((start jobs).run events).handedOut i = ((start jobs').run events').handedOut i := by
  have hanswered : Answered i job.turnsNeeded events ↔ Answered i job.turnsNeeded events' := by
    rw [← answered_filter_iff, hevents, answered_filter_iff]
  by_cases h : Answered i job.turnsNeeded events
  · rw [handedOut_of_answered hjob h, handedOut_of_answered hjob' (hanswered.1 h)]
  · rw [handedOut_of_unanswered hjob h, handedOut_of_unanswered hjob' (mt hanswered.2 h)]

end JobPool

end Standing

end CommitGate
