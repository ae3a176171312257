import Mathlib.Logic.Function.Basic
import Mathlib.Logic.Relation
import SchoolTimetable.Jobs.Workers
import SchoolTimetable.Proofs.Jobs.Sections
import SchoolTimetable.Proofs.Search.Runs

/-!
Callers and workers that share a registry. Each enters its guarded sections when it is its turn, in any order.
Between them a caller loads and assembles its problem, and a worker searches, builds the document of its
result and hands it to the sink.
-/

namespace SchoolTimetable

inductive WorkStage where
  | taken
  | solving
  | built (result : SolveResult) (solution : Solution)
  | delivered (result : SolveResult) (solution : Solution)
  | failing (message : String)

/-- What happens in the life of a job. The sink may refuse the solution that it is handed. -/
inductive JobEvent where
  | entered
  | withdrawn
  | begun
  | handed (solution : Solution) (refusal : Option String)

def Sink.isPresent : Sink → Bool
  | .absent => false
  | .taking | .failing _ => true

/-- A job as it is entered: nothing of it has been solved, whatever places its lessons at once. -/
def Job.IsNew (job : Job) : Prop :=
  ∃ (problem : Problem) (timetable : Timetable) (warnings : List WorkloadWarning)
    (placer : ExactPlacer) (clock : Clock) (source : Twister),
    problem.assemble job.config = .ok (timetable, warnings) ∧
    job = { Job.pending job.term job.config timetable clock job.pause with
      solver := Solver.ofTimetableWith placer timetable job.config clock source }

/-- What a job holds is a solver of an assembled timetable, at some point of its run. -/
def Job.Solves (job : Job) : Prop :=
  ∃ (problem : Problem) (timetable : Timetable) (warnings : List WorkloadWarning)
    (placer : ExactPlacer) (clock : Clock) (source : Twister) (scores : List Score),
    problem.assemble job.config = .ok (timetable, warnings) ∧
    Solver.Run (Solver.ofTimetableWith placer timetable job.config clock source) scores job.solver

/-- A job whose solver has gone on, by a step or because time passed or it was asked to stop. -/
def Job.withSolver (solver : Solver Twister) (job : Job) : Job := { job with solver := solver }

def Job.searched (job : Job) : Job := job.withSolver job.solver.advance

def Job.watched (clock : Clock) (job : Job) : Job := job.withSolver { job.solver with clock := clock }

def Job.asked (job : Job) : Job := job.withSolver job.solver.cancel

def Job.told (pause : Option Pause) (job : Job) : Job := { job with pause := pause }

structure JobManager where
  registry : JobRegistry
  /-- The terms that callers have reserved and not yet entered a job for. -/
  starting : List String
  /-- The jobs that workers are at. -/
  work : String → Option WorkStage
  /-- What has happened to each job, the last in front. -/
  past : String → List JobEvent

namespace JobManager

open JobRegistry

def idle (registry : JobRegistry) : JobManager := ⟨registry, [], fun _ => none, fun _ => []⟩

def onto (manager : JobManager) (id : String) (registry : JobRegistry) (work : Option WorkStage)
    (past : List JobEvent) : JobManager :=
  { manager with
    registry := registry
    work := Function.update manager.work id work
    past := Function.update manager.past id past }

inductive Step (manager : JobManager) : JobManager → Prop
  | reserve {Failure : Type} {term : String} {after : JobRegistry}
      (done : (reserve term : JobAction Failure Unit).run manager.registry = .ok () after) :
      Step manager { manager with registry := after, starting := term :: manager.starting }
  | release {Failure : Type} {term : String} {after : JobRegistry} (reserved : term ∈ manager.starting)
      (done : (release term : JobAction Failure Unit).run manager.registry = .ok () after) :
      Step manager { manager with registry := after, starting := manager.starting.erase term }
  | enter {Failure : Type} {id : String} {job : Job} {after : JobRegistry}
      (reserved : job.term ∈ manager.starting) (unused : manager.past id = []) (isNew : job.IsNew)
      (done : (enter id job : JobAction Failure Unit).run manager.registry = .ok () after) :
      Step manager (({ manager with starting := manager.starting.erase job.term }).onto id after
        (manager.work id) (.entered :: manager.past id))
  /-- The workers have been sent home, but the job has been registered. -/
  | strand {Failure : Type} {id : String} {job : Job} {after : JobRegistry}
      (reserved : job.term ∈ manager.starting) (unused : manager.past id = []) (isNew : job.IsNew)
      (refused : (enter id job : JobAction Failure Unit).run manager.registry =
        .error .poolClosed after) :
      Step manager (({ manager with starting := manager.starting.erase job.term }).onto id after
        (manager.work id) (.entered :: manager.past id))
  | take {id : String} (queued : id ∈ manager.registry.queue) :
      Step manager (manager.onto id (manager.registry.take id) (some .taken) (manager.past id))
  | begin {id : String} (work : manager.work id = some .taken) :
      Step manager
        (manager.onto id (manager.registry.begin id) (some .solving) (.begun :: manager.past id))
  | search {id : String} (work : manager.work id = some .solving) :
      Step manager (manager.onto id (manager.registry.changeJob id Job.searched) (manager.work id)
        (manager.past id))
  | watch {id : String} {job : Job} (registered : manager.registry.job? id = some job)
      (clock : Clock) :
      Step manager (manager.onto id (manager.registry.changeJob id (Job.watched clock))
        (manager.work id) (manager.past id))
  | note {id : String} {job : Job} (work : manager.work id = some .solving)
      (registered : manager.registry.job? id = some job) :
      Step manager (manager.onto id (manager.registry.recordBest id job.solver) (manager.work id)
        (manager.past id))
  | solveFails {id : String} {job : Job} {fault : PlanningFault}
      (work : manager.work id = some .solving) (registered : manager.registry.job? id = some job)
      (failed : job.solver.outcome? = some (.error fault)) :
      Step manager
        (manager.onto id manager.registry (some (.failing fault.message)) (manager.past id))
  | buildFails {id : String} {job : Job} {result : SolveResult} {fault : DocumentFault}
      (work : manager.work id = some .solving) (registered : manager.registry.job? id = some job)
      (ended : job.solver.outcome? = some (.ok result))
      (undocumented : result.solution job.config = .error fault) :
      Step manager
        (manager.onto id manager.registry (some (.failing fault.message)) (manager.past id))
  | build {id : String} {job : Job} {result : SolveResult} {solution : Solution}
      (work : manager.work id = some .solving) (registered : manager.registry.job? id = some job)
      (ended : job.solver.outcome? = some (.ok result))
      (resolved : result.solution job.config = .ok solution) :
      Step manager
        (manager.onto id manager.registry (some (.built result solution)) (manager.past id))
  | deliver {id : String} {result : SolveResult} {solution : Solution} {after : JobRegistry}
      (work : manager.work id = some (.built result solution))
      (done : manager.registry.deliver solution = .ok after) :
      Step manager (manager.onto id after (some (.delivered result solution))
        (if manager.registry.sink.isPresent then .handed solution none :: manager.past id
          else manager.past id))
  | refuse {id : String} {result : SolveResult} {solution : Solution} {message : String}
      (work : manager.work id = some (.built result solution))
      (refused : manager.registry.deliver solution = .error message) :
      Step manager (manager.onto id manager.registry (some (.failing message))
        (.handed solution (some message) :: manager.past id))
  | succeed {id : String} {result : SolveResult} {solution : Solution}
      (work : manager.work id = some (.delivered result solution)) :
      Step manager
        (manager.onto id (manager.registry.succeed id result solution) none (manager.past id))
  | fail {id : String} {message : String} (work : manager.work id = some (.failing message)) :
      Step manager
        (manager.onto id (manager.registry.finish id .failed (some message)) none (manager.past id))
  | withdraw {Failure : Type} {id : String} {after : JobRegistry} (waits : manager.registry.Waits id)
      (done : (cancel id : JobAction Failure Unit).run manager.registry = .ok () after) :
      Step manager (manager.onto id after (manager.work id) (.withdrawn :: manager.past id))
  | ask {Failure : Type} {id : String} {after : JobRegistry} (passed : ¬ manager.registry.Waits id)
      (done : (cancel id : JobAction Failure Unit).run manager.registry = .ok () after) :
      Step manager (manager.onto id after (manager.work id) (manager.past id))
  /-- Who cancels a job asks its solver to stop after the guarded section, whatever has become of
  the job by then. -/
  | askLate {id : String} {job : Job} (registered : manager.registry.job? id = some job) :
      Step manager (manager.onto id (manager.registry.changeJob id Job.asked) (manager.work id)
        (manager.past id))
  | tell {id : String} {job : Job} (registered : manager.registry.job? id = some job)
      (pause : Option Pause) :
      Step manager (manager.onto id (manager.registry.changeJob id (Job.told pause)) (manager.work id)
        (manager.past id))
  | sweep {Failure : Type} {now : Float} {count : Nat} {after : JobRegistry}
      (done : (dropStale now : JobAction Failure Nat).run manager.registry = .ok count after) :
      Step manager { manager with registry := after }
  | close : Step manager { manager with registry := manager.registry.close }
  | advance (seconds : Float) :
      Step manager { manager with registry := manager.registry.advance seconds }
  /-- A sink may fail at one time and not at another. -/
  | turn {sink : Sink} (same : sink.isPresent = manager.registry.sink.isPresent) :
      Step manager { manager with registry := { manager.registry with sink := sink } }

/-- One state comes from another in some steps. -/
abbrev Performs : JobManager → JobManager → Prop := Relation.ReflTransGen Step

/-- What comes of a registry with some workers. -/
def Reached (manager : JobManager) : Prop :=
  ∃ (workers : Int) (config : Config) (keptSeconds : Float) (sink : Sink) (registry : JobRegistry),
    (withWorkers workers config keptSeconds sink : Except (JobFault Empty) JobRegistry) =
      .ok registry ∧
    Performs (idle registry) manager

end JobManager

end SchoolTimetable
