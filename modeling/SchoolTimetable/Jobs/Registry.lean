import SchoolTimetable.Jobs.Job

/-!
The registry of jobs. Each operation here is one guarded section: callers and workers may run them
in any order, and between two of them nothing changes. A term is reserved before its problem is
loaded, and is free again when its job has come to its end.
-/

namespace SchoolTimetable

/-- What becomes of finished solutions: there is no sink, it takes them, or it fails with a text. -/
inductive Sink where
  | absent
  | taking
  | failing (message : String)
deriving DecidableEq, Repr

structure JobRegistry where
  /-- The settings of jobs that bring none of their own. -/
  config : Config
  /-- How many jobs can run at a time. -/
  workers : Nat
  /-- For how many seconds a finished job is kept. -/
  keptSeconds : Float
  sink : Sink
  clock : Clock
  jobs : List (String × Job)
  /-- The terms with an active job and its id, or none while the problem is assembled. -/
  active : List (String × Option String)
  /-- The jobs that wait for a worker, in order. -/
  queue : List String
  closed : Bool
  /-- What the sink has taken, in order. -/
  saved : List Solution

/-- A guarded section. Where it is refused it leaves what it had done by then. -/
abbrev JobAction (Failure : Type) := EStateM (JobFault Failure) JobRegistry

namespace JobRegistry

variable {Failure : Type}

def withWorkers (workers : Int) (config : Config) (keptSeconds : Float) (sink : Sink) :
    Except (JobFault Failure) JobRegistry :=
  if 0 < workers then
    .ok ⟨config, workers.toNat, keptSeconds, sink, .still, [], [], [], false, []⟩
  else .error .noWorkers

def job? (registry : JobRegistry) (id : String) : Option Job := Entries.get? id registry.jobs

def find (id : String) : JobAction Failure Job := do
  match (← get).job? id with
  | some job => return job
  | none => throw (.notFound id)

def changeJob (id : String) (change : Job → Job) (registry : JobRegistry) : JobRegistry :=
  { registry with jobs := Entries.modify id change registry.jobs }

def reserve (term : String) : JobAction Failure Unit := do
  match Entries.get? term (← get).active with
  | some job => throw (.alreadyRunning term job)
  | none => modify fun registry => { registry with active := Entries.put term none registry.active }

def release (term : String) : JobAction Failure Unit :=
  modify fun registry => { registry with active := Entries.erase term registry.active }

def register (id : String) (job : Job) (registry : JobRegistry) : JobRegistry :=
  { registry with
    jobs := Entries.put id job registry.jobs
    active := Entries.put job.term (some id) registry.active }

/-- Enters a job and hands it to the workers, who take none any more once they are sent home. -/
def enter (id : String) (job : Job) : JobAction Failure Unit := do
  modify (register id job)
  if (← get).closed then throw .poolClosed
  modify fun registry => { registry with queue := registry.queue ++ [id] }

def take (id : String) (registry : JobRegistry) : JobRegistry :=
  { registry with queue := registry.queue.erase id }

def begin (id : String) : JobRegistry → JobRegistry :=
  changeJob id fun job => { job with state := .running }

def recordBest (id : String) (solver : Solver Twister) (registry : JobRegistry) : JobRegistry :=
  registry.changeJob id fun job => { job with solver := solver, best := solver.bestScore? }

def finish (id : String) (state : JobState) (error : Option String) (registry : JobRegistry) :
    JobRegistry :=
  match registry.job? id with
  | none => registry
  | some job =>
      let ended := registry.changeJob id (Job.ended state error registry.clock.now)
      if Entries.get? job.term registry.active = some (some id) then
        { ended with active := Entries.erase job.term registry.active }
      else ended

def succeed (id : String) (result : SolveResult) (solution : Solution) (registry : JobRegistry) :
    JobRegistry :=
  (registry.changeJob id (Job.solved result solution)).finish id result.endState none

def status (id : String) : JobAction Failure JobStatus := do
  let job ← find id
  return job.status id

/-- Asks a job to stop. One that waits for a worker is cancelled at once; for one that has ended
nothing changes. -/
def cancel (id : String) : JobAction Failure Unit := do
  let job ← find id
  let waiting := (← get).queue.contains id
  if job.state = .pending ∧ waiting then
    modify fun registry =>
      ({ registry with queue := registry.queue.erase id }).finish id .cancelled none
  else if job.state.isActive then
    modify (changeJob id fun job => { job with solver := job.solver.cancel })

/-- The provisional solution of a running job, of the best that its search has come by. The worker
goes on meanwhile. -/
def provisional (id : String) (job : Job) : JobAction Failure Solution := do
  let clock := (← get).clock
  match ({ job.solver with clock := clock }).currentBest with
  | .ok (some best, _) =>
      match best.solution job.config with
      | .ok solution => return solution
      | .error fault => throw (.noDocument fault)
  | _ => throw (.notFinished id .running)

def result (id : String) : JobAction Failure Solution := do
  let job ← find id
  match job.solution with
  | some solution => return solution
  | none =>
      if job.state ≠ .running then throw (.notFinished id job.state)
      provisional id job

def awaited (id : String) : JobAction Failure JobStatus := do
  let job ← find id
  if job.state.isActive then throw (.timedOut id)
  return job.status id

/-- A job that ended longer ago than jobs are kept, as of some time. -/
def isStale (registry : JobRegistry) (now : Float) (job : Job) : Bool :=
  job.finishedAt.any fun finished => registry.keptSeconds < now - finished

/-- Drops the jobs that are stale as of some time and says how many there were. -/
def dropStale (now : Float) : JobAction Failure Nat := do
  let registry ← get
  let kept := registry.jobs.filter fun entry => !registry.isStale now entry.2
  set { registry with jobs := kept }
  return registry.jobs.length - kept.length

/-- Drops stale jobs. The clock is read before it is the caller's turn. -/
def cleanUp : JobAction Failure Nat := do
  let now := (← get).clock.now
  dropStale now

def activeIds (registry : JobRegistry) : List String :=
  (registry.jobs.filter fun entry => entry.2.state.isActive).map (·.1)

def close (registry : JobRegistry) : JobRegistry := { registry with closed := true }

def advance (seconds : Float) (registry : JobRegistry) : JobRegistry :=
  { registry with clock := registry.clock.advance seconds }

end JobRegistry

end SchoolTimetable
