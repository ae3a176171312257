import SchoolTimetable.Proofs.Jobs.Lives
import SchoolTimetable.Proofs.Solution.Resolution

/-!
Requests for the solution of a job. A solution is there once the job has stored one, and before that as soon as
its search has published a best, unless the score of a violation is too long to be written; no other request is
answered.
-/

namespace SchoolTimetable

theorem SolveResult.solution_status {result : SolveResult} {config : Config} {solution : Solution}
    (resolved : result.solution config = .ok solution) : solution.status = result.outcome.status := by
  obtain ⟨records, violations, -, -, rfl⟩ := solution_ok resolved
  rfl

namespace Solver

variable {Source : Type} {solver : Solver Source}

theorem outcome_of_ne_solving (reason : StopReason) (best : Score) : outcomeOf reason best ≠ .solving := by
  unfold outcomeOf
  split
  · simp
  · split <;> simp

theorem outcome_of_finish {search : LocalSearch Source} {reason : StopReason} {result : SolveResult}
    (terminated : (solver.finish search reason).stage = .terminated result) :
    result.outcome ≠ .solving := by
  unfold finish at terminated
  split at terminated
  · cases terminated
  · obtain rfl := SolveStage.terminated.inj terminated
    exact outcome_of_ne_solving reason search.best.score

theorem outcome_of_current_best {result : SolveResult} {after : Solver Source}
    (current : solver.currentBest = .ok (some result, after)) : result.outcome = .solving := by
  unfold currentBest at current
  split at current
  · obtain ⟨copy, -, rest⟩ := bind_ok.1 current
    obtain ⟨same, -⟩ := Prod.mk.inj (Except.ok.inj rest)
    obtain rfl := Option.some.inj same
    rfl
  · cases current

variable {placer : ExactPlacer} {timetable : Timetable} {config : Config} {clock : Clock}
  {source : Source} {scores : List Score}

variable [RandomSource Source]

/-- Whoever asks for the best so far gets the records of what was published last. -/
theorem Run.current_recorded {problem : Problem} {warnings : List WorkloadWarning} {best : Best}
    (assembled : problem.assemble config = .ok (timetable, warnings))
    (run : Run (ofTimetableWith placer timetable config clock source) scores solver)
    (latest : solver.published.head? = some best) :
    ∃ result after records, solver.currentBest = .ok (some result, after) ∧ result.Recorded config records ∧
      result.timetable.lessons = timetable.lessonsWith best.snapshot := by
  obtain ⟨result, after, current, copy, -⟩ := run.accounts.current_best latest
  obtain ⟨-, -, recorded⟩ := run.resolved assembled (.inr ⟨after, current⟩)
  refine ⟨result, after, _, current, recorded, ?_⟩
  rw [copy]
  rfl

theorem Run.outcome_ne_solving {result : SolveResult}
    (run : Run (ofTimetableWith placer timetable config clock source) scores solver)
    (terminated : solver.stage = .terminated result) : result.outcome ≠ .solving := by
  induction run with
  | start => cases terminated
  | @advance scores solver run ih =>
      have advances := solver.advances
      generalize solver.advance = next at advances terminated
      cases advances with
      | stop stage stopped => exact outcome_of_finish terminated
      | @search search stage continues =>
          unfold searchOn at terminated
          split at terminated <;> cases terminated
      | rest isOver => exact ih terminated
      | _ => cases terminated
  | cancel run ih => exact ih terminated
  | watch run clock ih => exact ih terminated

end Solver

namespace Job

variable {job : Job}

theorem Solves.status_of_finds {result : SolveResult} {solution : Solution} (solves : job.Solves)
    (found : job.Finds result solution) : solution.status ≠ .solving := by
  obtain ⟨_, _, _, _, _, _, _, -, run⟩ := solves
  have ended := run.outcome_ne_solving found.ended
  rw [SolveResult.solution_status found.resolved]
  cases outcome : result.outcome with
  | solving => exact absurd outcome ended
  | _ => simp [SolveOutcome.status]

end Job

namespace JobRegistry

variable {Failure : Type} {registry : JobRegistry} {id : String} {job : Job}

theorem provisional_of_current {best : SolveResult} {after : Solver Twister}
    (current : ({ job.solver with clock := registry.clock } : Solver Twister).currentBest = .ok (some best, after)) :
    (∀ solution, best.solution job.config = .ok solution →
      (provisional id job : JobAction Failure Solution).run registry = .ok solution registry) ∧
    ∀ fault, best.solution job.config = .error fault →
      (provisional id job : JobAction Failure Solution).run registry = .error (.noDocument fault) registry := by
  unfold provisional
  rw [EStateM.run_bind, EStateM.run_get]
  dsimp only
  rw [current]
  dsimp only
  constructor
  · intro solution resolved
    rw [resolved]
    rfl
  · intro fault resolved
    rw [resolved]
    rfl

/-- What is looked up of a running job is the document of its last best, if it has one. -/
theorem provisional_of_published {best : Best} (solves : job.Solves)
    (latest : job.solver.published.head? = some best) :
    (Writable job.config.weights (job.solver.base.lessonsWith best.snapshot) →
      ∃ solution, (provisional id job : JobAction Failure Solution).run registry = .ok solution registry ∧
        solution.status = .solving) ∧
    (¬ Writable job.config.weights (job.solver.base.lessonsWith best.snapshot) →
      (provisional id job : JobAction Failure Solution).run registry =
        .error (.noDocument .overlongScore) registry) := by
  obtain ⟨_, timetable, _, _, _, _, _, assembled, run⟩ := solves
  have watched := run.watch registry.clock
  have sameBase : job.solver.base = timetable := run.accounts.sameBase
  obtain ⟨result, after, records, current, recorded, lessons⟩ := watched.current_recorded assembled latest
  rw [sameBase, ← lessons]
  obtain ⟨answered, refused⟩ := provisional_of_current current
  constructor
  · intro writable
    obtain ⟨solution, resolved⟩ := recorded.document.2 writable
    refine ⟨solution, answered solution resolved, ?_⟩
    rw [SolveResult.solution_status resolved, Solver.outcome_of_current_best current]
    rfl
  · intro unwritable
    exact refused _ (SolveResult.solution_of_unwritable recorded.known unwritable)

theorem provisional_of_unpublished (published : job.solver.published = []) :
    (provisional id job : JobAction Failure Solution).run registry =
      .error (.notFinished id .running) registry := by
  have nothing : ({ job.solver with clock := registry.clock } : Solver Twister).currentBest =
      .ok (none, { job.solver with clock := registry.clock }) := by
    unfold Solver.currentBest
    rw [published]
    rfl
  unfold provisional
  rw [EStateM.run_bind, EStateM.run_get]
  dsimp only
  rw [nothing]
  rfl

theorem result_of_stored {solution : Solution} (registered : registry.job? id = some job)
    (stored : job.solution = some solution) :
    (result id : JobAction Failure Solution).run registry = .ok solution registry := by
  simp only [result, EStateM.run_bind, find_of_registered registered, stored]
  rfl

theorem result_of_running (registered : registry.job? id = some job) (stored : job.solution = none)
    (running : job.state = .running) :
    (result id : JobAction Failure Solution).run registry =
      (provisional id job : JobAction Failure Solution).run registry := by
  simp only [result, EStateM.run_bind, find_of_registered registered, stored, running]
  rfl

theorem result_of_other (registered : registry.job? id = some job) (stored : job.solution = none)
    (other : job.state ≠ .running) :
    (result id : JobAction Failure Solution).run registry =
      .error (.notFinished id job.state) registry := by
  simp only [result, EStateM.run_bind, find_of_registered registered, stored, if_pos other]
  rfl

end JobRegistry

/-- The last best of a job can be written as a document. -/
def Job.IsWritable (job : Job) (best : Best) : Prop :=
  job.solver.published.head? = some best ∧
    Writable job.config.weights (job.solver.base.lessonsWith best.snapshot)

/-- What is answered to whoever asks for the solution of a registered job. One that still runs is looked at once
more after the guarded section, when its search may have gone on. -/
structure Answers (registry : JobRegistry) (id : String) (job : Job) : Prop where
  returns : ∀ Failure : Type,
    (∃ solution, (JobRegistry.result id : JobAction Failure Solution).run registry =
      .ok solution registry) ↔
      job.solution.isSome ∨ job.state = .running ∧ ∃ best, job.IsWritable best
  refuses : ∀ Failure : Type,
    ¬ (job.solution.isSome ∨ job.state = .running ∧ job.solver.published ≠ []) →
    (JobRegistry.result id : JobAction Failure Solution).run registry =
      .error (.notFinished id job.state) registry
  overlong : ∀ Failure : Type, job.solution = none → job.state = .running → job.solver.published ≠ [] →
    (∀ best, ¬ job.IsWritable best) →
    (JobRegistry.result id : JobAction Failure Solution).run registry =
      .error (.noDocument .overlongScore) registry
  stored : ∀ (Failure : Type) (solution : Solution), job.solution = some solution →
    (JobRegistry.result id : JobAction Failure Solution).run registry = .ok solution registry
  looksAgain : ∀ Failure : Type, job.solution = none → job.state = .running →
    (JobRegistry.result id : JobAction Failure Solution).run registry =
      (JobRegistry.provisional id job : JobAction Failure Solution).run registry
  provisional : ∀ (Failure : Type) (best : Best), job.IsWritable best →
    ∃ solution, (JobRegistry.provisional id job : JobAction Failure Solution).run registry =
      .ok solution registry ∧ solution.status = .solving
  nothingYet : ∀ Failure : Type, job.solver.published = [] →
    (JobRegistry.provisional id job : JobAction Failure Solution).run registry =
      .error (.notFinished id .running) registry

section Answered

open JobRegistry

variable {Failure : Type} {registry : JobRegistry} {id : String} {job : Job}

theorem Job.exists_last_best (published : job.solver.published ≠ []) :
    ∃ best, job.solver.published.head? = some best := by
  obtain ⟨best, _, same⟩ := List.exists_cons_of_ne_nil published
  exact ⟨best, by rw [same]; rfl⟩

theorem result_overlong (registered : registry.job? id = some job) (solves : job.Solves)
    (stored : job.solution = none) (running : job.state = .running) (published : job.solver.published ≠ [])
    (unwritable : ∀ best, ¬ job.IsWritable best) :
    (JobRegistry.result id : JobAction Failure Solution).run registry =
      .error (.noDocument .overlongScore) registry := by
  obtain ⟨best, latest⟩ := Job.exists_last_best published
  rw [result_of_running registered stored running]
  exact (provisional_of_published solves latest).2 fun writable => unwritable best ⟨latest, writable⟩

theorem result_refuses (registered : registry.job? id = some job)
    (lacks : ¬ (job.solution.isSome ∨ job.state = .running ∧ job.solver.published ≠ [])) :
    (JobRegistry.result id : JobAction Failure Solution).run registry =
      .error (.notFinished id job.state) registry := by
  rw [not_or, not_and] at lacks
  have stored : job.solution = none := by simpa using lacks.1
  by_cases running : job.state = .running
  · have unpublished : job.solver.published = [] := not_not.1 (lacks.2 running)
    rw [result_of_running registered stored running, provisional_of_unpublished unpublished, running]
  · exact result_of_other registered stored running

theorem result_returns (registered : registry.job? id = some job) (solves : job.Solves) :
    (∃ solution, (JobRegistry.result id : JobAction Failure Solution).run registry = .ok solution registry) ↔
      job.solution.isSome ∨ job.state = .running ∧ ∃ best, job.IsWritable best := by
  cases stored : job.solution with
  | some solution => simp [result_of_stored registered stored]
  | none =>
      simp only [Option.isSome_none, Bool.false_eq_true, false_or]
      constructor
      · rintro ⟨solution, returned⟩
        by_cases has : job.state = .running ∧ job.solver.published ≠ []
        · refine ⟨has.1, ?_⟩
          by_contra unwritable
          rw [result_overlong registered solves stored has.1 has.2 (not_exists.1 unwritable)] at returned
          cases returned
        · rw [result_refuses registered (by simpa [stored] using has)] at returned
          cases returned
      · rintro ⟨running, best, latest, writable⟩
        obtain ⟨solution, provided, -⟩ := (provisional_of_published solves latest).1 writable
        exact ⟨solution, (result_of_running registered stored running).trans provided⟩

theorem answers_of_solves (registered : registry.job? id = some job) (solves : job.Solves) :
    Answers registry id job where
  returns := fun _ => result_returns registered solves
  refuses := fun _ => result_refuses registered
  overlong := fun _ => result_overlong registered solves
  stored := fun _ _ => result_of_stored registered
  looksAgain := fun _ => result_of_running registered
  provisional := fun _ _ writable => (provisional_of_published solves writable.1).1 writable.2
  nothingYet := fun _ => provisional_of_unpublished

end Answered

end SchoolTimetable
