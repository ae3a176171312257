import SchoolTimetable.Proofs.Jobs.Manager

/-!
The life of one job. What is registered of it, whether it waits in the queue, how far a worker has come with it
and what has happened to it so far always fit together.
-/

namespace SchoolTimetable

theorem JobState.is_active_iff (state : JobState) :
    state.isActive = true ↔ state = .pending ∨ state = .running := by
  cases state <;> simp [isActive]

namespace Job

variable {job changed : Job} {result : SolveResult} {solution : Solution}

/-- Nothing has come of a job yet. -/
structure Blank (job : Job) : Prop where
  solution : job.solution = none
  error : job.error = none
  finishedAt : job.finishedAt = none

/-- The search of a job has come to a result, and this is the document of it. -/
structure Finds (job : Job) (result : SolveResult) (solution : Solution) : Prop where
  ended : job.solver.stage = .terminated result
  resolved : result.solution job.config = .ok solution

inductive Thwarted (present : Bool) (job : Job) : String → List JobEvent → Prop
  | search {phase : SolvePhase} {fault : PlanningFault} (failed : job.solver.stage = .failed phase fault) :
      Thwarted present job fault.message [.begun, .entered]
  | document {result : SolveResult} {fault : DocumentFault}
      (ended : job.solver.stage = .terminated result)
      (undocumented : result.solution job.config = .error fault) :
      Thwarted present job fault.message [.begun, .entered]
  | sink {result : SolveResult} {solution : Solution} {message : String}
      (found : job.Finds result solution) (sunk : present = true) :
      Thwarted present job message [.handed solution (some message), .begun, .entered]

structure SameStanding (job changed : Job) : Prop where
  term : changed.term = job.term
  config : changed.config = job.config
  state : changed.state = job.state
  solution : changed.solution = job.solution
  error : changed.error = job.error
  finishedAt : changed.finishedAt = job.finishedAt

theorem SameStanding.refl (job : Job) : SameStanding job job := ⟨rfl, rfl, rfl, rfl, rfl, rfl⟩

theorem SameStanding.with_solver (job : Job) (solver : Solver Twister) :
    SameStanding job (job.withSolver solver) := ⟨rfl, rfl, rfl, rfl, rfl, rfl⟩

theorem Blank.of_same (blank : job.Blank) (same : SameStanding job changed) : changed.Blank :=
  ⟨same.solution.trans blank.solution, same.error.trans blank.error,
    same.finishedAt.trans blank.finishedAt⟩

theorem Finds.of_same (found : job.Finds result solution) (config : changed.config = job.config)
    (stage : changed.solver.stage = job.solver.stage) : changed.Finds result solution :=
  ⟨stage.trans found.ended, by rw [config]; exact found.resolved⟩

theorem Finds.unique {other : SolveResult} {otherSolution : Solution}
    (found : job.Finds result solution) (again : job.Finds other otherSolution) :
    other = result ∧ otherSolution = solution := by
  obtain rfl := SolveStage.terminated.inj (again.ended.symm.trans found.ended)
  exact ⟨rfl, Except.ok.inj (again.resolved.symm.trans found.resolved)⟩

theorem Thwarted.of_same {present : Bool} {message : String} {past : List JobEvent}
    (thwarted : job.Thwarted present message past) (config : changed.config = job.config)
    (stage : changed.solver.stage = job.solver.stage) : changed.Thwarted present message past := by
  cases thwarted with
  | search failed => exact .search (stage.trans failed)
  | document ended undocumented =>
      apply Thwarted.document (stage.trans ended)
      rw [config]
      exact undocumented
  | sink found sunk => exact .sink (found.of_same config stage) sunk

end Job

def delivery (present : Bool) (solution : Solution) : List JobEvent :=
  if present then [.handed solution none, .begun, .entered] else [.begun, .entered]

inductive History : List JobEvent → Prop
  | entered : History [.entered]
  | withdrawn : History [.withdrawn, .entered]
  | begun : History [.begun, .entered]
  | handed (solution : Solution) (refusal : Option String) :
      History [.handed solution refusal, .begun, .entered]

theorem history_of_delivery (present : Bool) (solution : Solution) :
    History (delivery present solution) := by
  cases present with
  | false => exact .begun
  | true => exact .handed solution none

theorem Job.Thwarted.history {present : Bool} {job : Job} {message : String} {past : List JobEvent}
    (thwarted : job.Thwarted present message past) : History past := by
  cases thwarted with
  | search failed => exact .begun
  | document ended undocumented => exact .begun
  | sink found sunk => exact .handed _ _

/-- How a job can stand: what is registered, how often it waits in the queue, what a worker does for it and
what has happened to it, given whether there is a sink. -/
inductive Life (present : Bool) : Option Job → Nat → Option WorkStage → List JobEvent → Prop
  | unknown : Life present none 0 none []
  | waiting {job : Job} (state : job.state = .pending) (blank : job.Blank) :
      Life present (some job) 1 none [.entered]
  /-- No worker will ever take the job. -/
  | stranded {job : Job} (state : job.state = .pending) (blank : job.Blank) :
      Life present (some job) 0 none [.entered]
  | taken {job : Job} (state : job.state = .pending) (blank : job.Blank) :
      Life present (some job) 0 (some .taken) [.entered]
  | solving {job : Job} (state : job.state = .running) (blank : job.Blank) :
      Life present (some job) 0 (some .solving) [.begun, .entered]
  | built {job : Job} {result : SolveResult} {solution : Solution} (state : job.state = .running)
      (blank : job.Blank) (found : job.Finds result solution) :
      Life present (some job) 0 (some (.built result solution)) [.begun, .entered]
  | delivered {job : Job} {result : SolveResult} {solution : Solution} (state : job.state = .running)
      (blank : job.Blank) (found : job.Finds result solution) :
      Life present (some job) 0 (some (.delivered result solution)) (delivery present solution)
  | failing {job : Job} {message : String} {past : List JobEvent} (state : job.state = .running)
      (blank : job.Blank) (thwarted : job.Thwarted present message past) :
      Life present (some job) 0 (some (.failing message)) past
  | withdrawn {job : Job} (state : job.state = .cancelled) (solution : job.solution = none)
      (finished : job.finishedAt.isSome) :
      Life present (some job) 0 none [.withdrawn, .entered]
  | failed {job : Job} {message : String} {past : List JobEvent} (state : job.state = .failed)
      (solution : job.solution = none) (finished : job.finishedAt.isSome)
      (thwarted : job.Thwarted present message past) :
      Life present (some job) 0 none past
  | done {job : Job} {result : SolveResult} {solution : Solution} (state : job.state = result.endState)
      (stored : job.solution = some solution) (finished : job.finishedAt.isSome)
      (found : job.Finds result solution) :
      Life present (some job) 0 none (delivery present solution)
  | forgotten {past : List JobEvent} (history : History past) : Life present none 0 none past

namespace Life

variable {present : Bool} {job changed : Job} {registered : Option Job} {count : Nat}
  {work : Option WorkStage} {past : List JobEvent} {result : SolveResult} {solution : Solution}
  {message : String}

theorem of_waiting (life : Life present registered count work past) (waits : 0 < count) :
    ∃ job, registered = some job ∧ job.state = .pending ∧ job.Blank ∧ count = 1 ∧ work = none ∧
      past = [.entered] := by
  cases life with
  | waiting state blank => exact ⟨_, rfl, state, blank, rfl, rfl, rfl⟩
  | _ => cases waits

theorem count_le_one (life : Life present registered count work past) : count ≤ 1 := by
  cases life with
  | waiting => exact Nat.le_refl 1
  | _ => exact Nat.zero_le 1

theorem of_taken (life : Life present registered count (some .taken) past) :
    ∃ job, registered = some job ∧ job.state = .pending ∧ job.Blank ∧ count = 0 ∧
      past = [.entered] := by
  cases life with
  | taken state blank => exact ⟨_, rfl, state, blank, rfl, rfl⟩

theorem of_solving (life : Life present registered count (some .solving) past) :
    ∃ job, registered = some job ∧ job.state = .running ∧ job.Blank ∧ count = 0 ∧
      past = [.begun, .entered] := by
  cases life with
  | solving state blank => exact ⟨_, rfl, state, blank, rfl, rfl⟩

theorem of_built (life : Life present registered count (some (.built result solution)) past) :
    ∃ job, registered = some job ∧ job.state = .running ∧ job.Blank ∧ job.Finds result solution ∧
      count = 0 ∧ past = [.begun, .entered] := by
  cases life with
  | built state blank found => exact ⟨_, rfl, state, blank, found, rfl, rfl⟩

theorem of_delivered (life : Life present registered count (some (.delivered result solution)) past) :
    ∃ job, registered = some job ∧ job.state = .running ∧ job.Blank ∧ job.Finds result solution ∧
      count = 0 ∧ past = delivery present solution := by
  cases life with
  | delivered state blank found => exact ⟨_, rfl, state, blank, found, rfl, rfl⟩

theorem of_failing (life : Life present registered count (some (.failing message)) past) :
    ∃ job, registered = some job ∧ job.state = .running ∧ job.Blank ∧
      job.Thwarted present message past ∧ count = 0 := by
  cases life with
  | failing state blank thwarted => exact ⟨_, rfl, state, blank, thwarted, rfl⟩

theorem of_unused (life : Life present registered count work []) :
    registered = none ∧ count = 0 ∧ work = none := by
  -- The history stands as a variable, as the cases each have one of their own.
  generalize nothing : ([] : List JobEvent) = past at life
  cases life with
  | unknown => exact ⟨rfl, rfl, rfl⟩
  | forgotten history => exact ⟨rfl, rfl, rfl⟩
  | delivered => cases present <;> cases nothing
  | done => cases present <;> cases nothing
  | failing state blank thwarted => subst nothing; cases thwarted
  | failed state solution finished thwarted => subst nothing; cases thwarted
  | _ => cases nothing

theorem history (life : Life present registered count work past) (known : past ≠ []) : History past := by
  cases life with
  | unknown => exact absurd rfl known
  | waiting | stranded | taken => exact .entered
  | solving | built => exact .begun
  | delivered | done => exact history_of_delivery ..
  | failing state blank thwarted => exact thwarted.history
  | failed state solution finished thwarted => exact thwarted.history
  | withdrawn => exact .withdrawn
  | forgotten history => exact history

/-- A job goes on with what its solver does while nothing else happens to it. -/
theorem of_same (life : Life present (some job) count work past) (same : job.SameStanding changed)
    (stage : changed.solver.stage = job.solver.stage) : Life present (some changed) count work past := by
  have config := same.config
  cases life with
  | waiting state blank => exact .waiting (same.state.trans state) (blank.of_same same)
  | stranded state blank => exact .stranded (same.state.trans state) (blank.of_same same)
  | taken state blank => exact .taken (same.state.trans state) (blank.of_same same)
  | solving state blank => exact .solving (same.state.trans state) (blank.of_same same)
  | built state blank found =>
      exact .built (same.state.trans state) (blank.of_same same) (found.of_same config stage)
  | delivered state blank found =>
      exact .delivered (same.state.trans state) (blank.of_same same) (found.of_same config stage)
  | failing state blank thwarted =>
      exact .failing (same.state.trans state) (blank.of_same same) (thwarted.of_same config stage)
  | withdrawn state solution finished =>
      exact .withdrawn (same.state.trans state) (same.solution.trans solution)
        (same.finishedAt ▸ finished)
  | failed state solution finished thwarted =>
      exact .failed (same.state.trans state) (same.solution.trans solution)
        (same.finishedAt ▸ finished) (thwarted.of_same config stage)
  | done state stored finished found =>
      exact .done (same.state.trans state) (same.solution.trans stored) (same.finishedAt ▸ finished)
        (found.of_same config stage)

theorem end_state_ended (result : SolveResult) : result.endState.isActive = false := by
  unfold SolveResult.endState
  split <;> rfl

theorem not_running (life : Life present (some job) count none past) : job.state ≠ .running := by
  cases life with
  | waiting state blank | stranded state blank => simp [state]
  | withdrawn state solution finished => simp [state]
  | failed state solution finished thwarted => simp [state]
  | @done _ result solution state stored finished found =>
      intro running
      have ended := end_state_ended result
      rw [← state, running] at ended
      cases ended

/-- Exactly the jobs that have come to an end have a time at which they did. -/
theorem finished_iff (life : Life present (some job) count work past) :
    job.finishedAt.isSome = !job.state.isActive := by
  cases life with
  | withdrawn state solution finished => rw [finished, state]; rfl
  | failed state solution finished thwarted => rw [finished, state]; rfl
  | done state stored finished found => rw [finished, state, end_state_ended]; rfl
  | waiting state blank | stranded state blank | taken state blank | solving state blank
  | built state blank found | delivered state blank found | failing state blank thwarted =>
      rw [blank.finishedAt, state]
      rfl

theorem of_ended (life : Life present (some job) count work past) (ended : job.state.isActive = false) :
    count = 0 ∧ work = none ∧ History past := by
  cases life with
  | withdrawn => exact ⟨rfl, rfl, .withdrawn⟩
  | failed state solution finished thwarted => exact ⟨rfl, rfl, thwarted.history⟩
  | done => exact ⟨rfl, rfl, history_of_delivery ..⟩
  | waiting state blank | stranded state blank | taken state blank | solving state blank
  | built state blank found | delivered state blank found | failing state blank thwarted =>
      rw [state] at ended
      cases ended

end Life

end SchoolTimetable
