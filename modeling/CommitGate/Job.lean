/-!
# Jobs

A job is awaited through a channel that holds at most one result. The other end of the channel puts
a value in or goes away; a job that crashes goes away without a value. Jobs take turns in any order,
and each is looked at when its handle is awaited: what a look gives depends on that job alone.
-/

namespace CommitGate

/-- How work ends. -/
inductive Ending (α : Type) where
  | value (a : α)
  | crash
deriving DecidableEq, Repr

/-- How work ends that goes on from other work in the same task: it crashes along with it. -/
def Ending.map {α β : Type} (f : α → β) : Ending α → Ending β
  | value a => value (f a)
  | crash => crash

/-- Whether the work ends with a value. -/
def Ending.isValue {α : Type} : Ending α → Bool
  | value _ => true
  | crash => false

/-- Why awaiting a job gives no value. -/
inductive JobError where
  /-- The other end of the channel went away without putting a value in. -/
  | channelClosed
deriving DecidableEq, Repr

/-- What is wrong with the channel, in words. -/
def JobError.cause : JobError → String
  | channelClosed => "channel closed"

/-- The error in words. -/
def JobError.message (e : JobError) : String := "Task channel error: " ++ e.cause

/-- What the channel of some work delivers once the work has ended. -/
def Ending.delivery {α : Type} : Ending α → Except JobError α
  | value a => .ok a
  | crash => .error .channelClosed

/-- How work ends that awaits other work behind a channel: it goes on with what is delivered, and
does not crash if that other work does. -/
def Ending.awaited {α : Type} (e : Ending α) : Ending (Except JobError α) := value e.delivery

/-- How a job was made. -/
inductive Job (α : Type) where
  /-- From work that pauses a number of times before it ends. -/
  | spawned (pauses : Nat) (ending : Ending α)
  /-- From a channel that holds a value. -/
  | filled (a : α)
  /-- From a channel whose other end has gone away. -/
  | abandoned
deriving DecidableEq, Repr

/-- What awaiting a job gives. -/
def Job.result {α : Type} : Job α → Except JobError α
  | spawned _ ending => ending.delivery
  | filled a => .ok a
  | abandoned => .error .channelClosed

/-! ### Turns and looks -/

/-- Where a job is. -/
inductive Stage (α : Type) where
  /-- It works, with this many pauses to go. -/
  | working (pauses : Nat) (ending : Ending α)
  | settled (result : Except JobError α)
  /-- The result has been handed out. -/
  | resolved

namespace Stage

variable {α : Type}

/-- Where a job is at first. -/
def start : Job α → Stage α
  | .spawned pauses ending => working pauses ending
  | .filled a => settled (.ok a)
  | .abandoned => settled (.error .channelClosed)

/-- Where a job is after a turn. -/
def turn : Stage α → Stage α
  | working (pauses + 1) ending => working pauses ending
  | working 0 ending => settled ending.delivery
  | stage => stage

/-- The number of turns until the result can be had. -/
def turnsLeft : Stage α → Nat
  | working pauses _ => pauses + 1
  | _ => 0

end Stage

/-- What happens next. -/
inductive JobEvent where
  | turn (job : Nat)
  /-- The handle of a job is looked at. -/
  | look (job : Nat)
deriving DecidableEq, Repr

/-- Jobs at some time. -/
structure JobPool (α : Type) where
  stages : List (Stage α)
  /-- The results that were handed out, in order, each with the number of its job. -/
  resolved : List (Nat × Except JobError α) := []

namespace JobPool

variable {α : Type}

/-- Jobs of which none has taken a turn. -/
def start (jobs : List (Job α)) : JobPool α := { stages := jobs.map Stage.start }

/-- The jobs after an event. A look at a job that is not settled changes nothing. -/
def next (pool : JobPool α) : JobEvent → JobPool α
  | .turn i => { pool with stages := pool.stages.modify i Stage.turn }
  | .look i =>
    match pool.stages[i]? with
    | some (.settled result) =>
      { stages := pool.stages.set i .resolved
        resolved := pool.resolved ++ [(i, result)] }
    | _ => pool

/-- The jobs after events. -/
def run (pool : JobPool α) (events : List JobEvent) : JobPool α := events.foldl next pool

/-- Events in which the handles are awaited in an order, each until its job has settled. -/
def awaiting (pool : JobPool α) (order : List Nat) : List JobEvent :=
  order.flatMap fun i =>
    let turns := (pool.stages[i]?.map Stage.turnsLeft).getD 0
    List.replicate turns (.turn i) ++ [.look i]

end JobPool

/-- The results of jobs whose handles are awaited in an order. -/
def Job.awaitAll {α : Type} (jobs : List (Job α)) (order : List Nat) :
    List (Nat × Except JobError α) :=
  let pool := JobPool.start jobs
  (pool.run (pool.awaiting order)).resolved

end CommitGate
