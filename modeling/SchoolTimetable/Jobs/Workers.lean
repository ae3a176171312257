import SchoolTimetable.Jobs.Registry

/-!
Workers and the requests that set them going. After each request the workers go on until every job
has ended, waits where it was told to pause, or waits in the queue because no worker is free.
-/

namespace SchoolTimetable.JobRegistry

variable {Failure : Type}

def deliver (solution : Solution) (registry : JobRegistry) : Except String JobRegistry :=
  match registry.sink with
  | .absent => .ok registry
  | .taking => .ok { registry with saved := registry.saved ++ [solution] }
  | .failing message => .error message

/-- Ends a job whose solver is done: the document is built and handed to the sink. -/
def conclude (id : String) (job : Job) (registry : JobRegistry) : JobRegistry :=
  match job.solver.outcome? with
  | none => registry
  | some (.error fault) => registry.finish id .failed (some fault.message)
  | some (.ok result) =>
      match result.solution job.config with
      | .error fault => registry.finish id .failed (some fault.message)
      | .ok solution =>
          if job.pause = some .beforeSink ∧ registry.sink ≠ .absent then registry
          else
            match registry.deliver solution with
            | .error message => registry.finish id .failed (some message)
            | .ok delivered => delivered.succeed id result solution

def proceed (id : String) (registry : JobRegistry) : JobRegistry :=
  match registry.job? id with
  | none => registry
  | some job =>
      let solver := { job.solver with clock := registry.clock }
      match job.pause with
      | some .beforeConstruction => registry
      | some (.afterBest count) =>
          let reached := solver.runToBest count
          let recorded := registry.recordBest id reached
          if reached.isOver then recorded.conclude id { job with solver := reached } else recorded
      | _ =>
          let ended := solver.runToEnd
          (registry.recordBest id ended).conclude id { job with solver := ended }

def busy (registry : JobRegistry) : Nat :=
  (registry.jobs.filter fun entry => entry.2.state = .running).length

def settle (registry : JobRegistry) : JobRegistry :=
  registry.queue.foldl
    (fun state id => if state.busy < state.workers then ((state.take id).begin id).proceed id else state)
    registry

/-- Starts a solve of a term. Its problem is loaded and assembled while the term is reserved; what
goes wrong with that gives the term free again. -/
def start (id term : String) (config : Option Config) (pause : Option Pause)
    (load : JobAction Failure Problem) : JobAction Failure Unit := do
  reserve term
  let registry ← get
  let settings := config.getD registry.config
  match load.run registry with
  | .error fault loaded => do
      set loaded
      release term
      throw fault
  | .ok problem loaded => do
      set loaded
      match problem.assemble settings with
      | .error faults => do
          release term
          throw (.unassemblable faults)
      | .ok (timetable, _) => do
          enter id (.pending term settings timetable registry.clock pause)
          modify settle

/-- Lets a job that pauses go on; one that has not come to its pause will pass it. -/
def resume (id : String) (registry : JobRegistry) : JobRegistry :=
  let passing := registry.changeJob id fun job => { job with pause := none }
  match registry.job? id with
  | some job => if job.state = .running then (passing.proceed id).settle else passing
  | none => passing

def cancelAll : List String → JobAction Failure Unit
  | [] => return
  | id :: rest => do
      cancel id
      cancelAll rest

/-- Cancels every active job, sends the workers home and lets those that pause go on in the order in
which they were started. -/
def shutDown : JobAction Failure Unit := do
  let active := (← get).activeIds
  cancelAll active
  modify close
  modify fun registry => active.foldl (fun state id => state.resume id) registry

end SchoolTimetable.JobRegistry
