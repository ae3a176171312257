import SchoolTimetable.Random.Twister
import SchoolTimetable.Solution.Extraction
import SchoolTimetable.Timetable.Assembly

/-!
Solves that run in the background: what is kept of each, how it stands, and why a request about one
is refused.
-/

namespace SchoolTimetable

inductive JobState where
  | pending
  | running
  | succeeded
  | failed
  | cancelled
deriving DecidableEq, Repr

namespace JobState

def text : JobState → String
  | .pending => "PENDING"
  | .running => "RUNNING"
  | .succeeded => "SUCCEEDED"
  | .failed => "FAILED"
  | .cancelled => "CANCELLED"

def isActive (state : JobState) : Bool := state == .pending || state == .running

end JobState

/-- Where a worker waits until it is told to go on: before construction, after a best placement, or
before the solution is handed to the sink. -/
inductive Pause where
  | beforeConstruction
  | afterBest (count : Nat)
  | beforeSink
deriving DecidableEq, Repr

structure Job where
  term : String
  config : Config
  solver : Solver Twister
  state : JobState
  best : Option Score
  solution : Option Solution
  error : Option String
  finishedAt : Option Float
  pause : Option Pause

def Job.pending (term : String) (settings : Config) (timetable : Timetable) (clock : Clock)
    (pause : Option Pause) : Job where
  term := term
  config := settings
  solver := Solver.ofTimetable timetable settings clock (Twister.ofSeed (settings.seed.getD 0))
  state := .pending
  best := none
  solution := none
  error := none
  finishedAt := none
  pause := pause

def Job.ended (state : JobState) (error : Option String) (now : Float) (job : Job) : Job :=
  { job with state := state, error := error, finishedAt := some now }

def Job.solved (result : SolveResult) (solution : Solution) (job : Job) : Job :=
  { job with solution := some solution, best := some result.score }

def SolveResult.endState (result : SolveResult) : JobState :=
  if result.isCancelled then .cancelled else .succeeded

structure JobStatus where
  id : String
  term : String
  state : JobState
  score : Option Score
  error : Option String
deriving DecidableEq, Repr

def Job.status (id : String) (job : Job) : JobStatus := ⟨id, job.term, job.state, job.best, job.error⟩

/-- Why a request about jobs is refused. The source of problems has failures of its own. -/
inductive JobFault (Failure : Type) where
  /-- The term has an active job, or is being assembled for one. -/
  | alreadyRunning (term : String) (job : Option String)
  | notFound (job : String)
  | notFinished (job : String) (state : JobState)
  | source (failure : Failure)
  | unassemblable (faults : List AssemblyFault)
  /-- The workers have been sent home. -/
  | poolClosed
  | noDocument (fault : DocumentFault)
  | timedOut (job : String)
  /-- There would be nobody to run a job. -/
  | noWorkers

namespace JobFault

def message {Failure : Type} (ofFailure : Failure → String) : JobFault Failure → String
  | .alreadyRunning term job =>
      let id := job.getD ""
      s!"Solver is already running for term {term} (job {id})"
  | .notFound job => s!"No solve job with id {job}"
  | .notFinished job state => s!"No solution available for job {job} ({state.text})"
  | .source failure => ofFailure failure
  | .unassemblable faults => assemblyMessage faults
  | .poolClosed => "cannot schedule new futures after shutdown"
  | .noDocument fault => fault.message
  | .timedOut job => s!"Job {job} has not finished"
  | .noWorkers => "max_workers must be greater than 0"

end JobFault

end SchoolTimetable
