import SchoolTimetable.Proofs.Jobs.Performance
import SchoolTimetable.Proofs.Jobs.Starting

/-!
One active job for each term, in whatever order callers and workers enter their guarded sections. The table of
active terms tells at all times which job that is, and requests are refused by it alone.
-/

namespace SchoolTimetable

namespace JobManager

open JobRegistry

variable {manager : JobManager} {id other term : String} {job otherJob : Job}

/-- What the table of active terms says of jobs and of requests to start them, and which jobs are dropped. -/
structure KeepsTerms (manager : JobManager) : Prop where
  single : ∀ id other job otherJob, manager.registry.job? id = some job →
    manager.registry.job? other = some otherJob → job.term = otherJob.term →
    job.state.isActive = true → otherJob.state.isActive = true → id = other
  listed : ∀ term id, Entries.get? term manager.registry.active = some (some id) ↔
    ∃ job, manager.registry.job? id = some job ∧ job.term = term ∧
      (job.state = .pending ∨ job.state = .running)
  startedOnce : ∀ term, manager.starting.count term ≤ 1
  reserved : ∀ term, Entries.get? term manager.registry.active = some none ↔
    manager.starting.count term = 1
  reserveRefused : ∀ (Failure : Type) (term : String),
    (∃ holder, (reserve term : JobAction Failure Unit).run manager.registry =
      .error (.alreadyRunning term holder) manager.registry) ↔
      (Entries.get? term manager.registry.active).isSome
  startRefused : ∀ (Failure : Type) (id term : String) (config : Option Config) (pause : Option Pause)
    (load : JobAction Failure Problem), FailsOnItsOwn load →
    ((∃ holder after, (start id term config pause load).run manager.registry =
      .error (.alreadyRunning term holder) after) ↔
      (Entries.get? term manager.registry.active).isSome)
  swept : ∀ (Failure : Type) (now : Float) (count : Nat) (after : JobRegistry),
    (dropStale now : JobAction Failure Nat).run manager.registry = .ok count after →
    ∀ id job, manager.registry.job? id = some job →
      after.job? id = some job ∨ after.job? id = none ∧ job.state.isActive = false ∧
        ∃ finished, job.finishedAt = some finished ∧ manager.registry.keptSeconds < now - finished

namespace Orderly

theorem single_holder (orderly : Orderly manager) (registered : manager.registry.job? id = some job)
    (otherRegistered : manager.registry.job? other = some otherJob) (same : job.term = otherJob.term)
    (active : job.state.isActive = true) (otherActive : otherJob.state.isActive = true) :
    id = other := by
  have holder := orderly.holder registered active
  have otherHolder := orderly.holder otherRegistered otherActive
  rw [same, otherHolder] at holder
  exact (Option.some.inj (Option.some.inj holder)).symm

theorem swept {Failure : Type} {now : Float} {count : Nat} {after : JobRegistry}
    (orderly : Orderly manager)
    (done : (dropStale now : JobAction Failure Nat).run manager.registry = .ok count after)
    (registered : manager.registry.job? id = some job) :
    after.job? id = some job ∨ after.job? id = none ∧ job.state.isActive = false ∧
      ∃ finished, job.finishedAt = some finished ∧ manager.registry.keptSeconds < now - finished := by
  rw [drop_stale_run] at done
  obtain ⟨-, rfl⟩ := EStateM.Result.ok.inj done
  rw [job_without_stale orderly.distinct, registered]
  by_cases stale : manager.registry.isStale now job = true
  · obtain ⟨finished, late⟩ := (Option.any_eq_true_iff_get _ _).1 stale
    right
    refine ⟨Option.filter_some_neg (by simpa using stale), orderly.ended_of_stale registered stale,
      job.finishedAt.get finished, Option.eq_some_of_isSome finished, ?_⟩
    exact of_decide_eq_true late
  · exact .inl (Option.filter_some_pos (by simpa using stale))

end Orderly

/-- In any order of steps each term has at most one active job, which is the one in the table. -/
theorem one_active_job_per_term (reached : manager.Reached) : manager.KeepsTerms := by
  have orderly := reached.orderly
  constructor
  · intro id other job otherJob registered otherRegistered
    exact orderly.single_holder registered otherRegistered
  · intro term id
    rw [orderly.table]
    unfold Holds
    simp only [JobState.is_active_iff]
  · intro term
    rw [orderly.reserved]
    split <;> omega
  · intro term
    rw [orderly.reserved]
    split <;> simp_all
  · intro Failure term
    exact reserve_refused_iff manager.registry term
  · intro Failure id term config pause load ownFaults
    exact start_refused_iff ownFaults
  · intro Failure now count after done id job registered
    exact orderly.swept done registered

/-- While a job waits for one term, another one is being started. -/
theorem morning_keeps_its_term : ∃ manager : JobManager, manager.Reached ∧
    manager.registry.active = [("T", some "a"), ("U", none)] ∧ manager.starting = ["U"] ∧
    (∃ job, manager.registry.job? "a" = some job ∧ job.term = "T" ∧ job.state = .pending) ∧
    manager.KeepsTerms := by
  let waiting := morningQueued MusicMorning.config
  have reserved : (reserve "U" : JobAction Empty Unit).run waiting =
      .ok () (waiting.reserved "U") := reserve_of_free rfl
  have performs := (morning_enters rfl).tail (.reserve reserved)
  have reached : Reached _ :=
    ⟨1, MusicMorning.config, 1800, .taking, openHouse, open_house_made, performs⟩
  exact ⟨_, reached, rfl, rfl, ⟨_, rfl, rfl, rfl⟩, one_active_job_per_term reached⟩

end JobManager

end SchoolTimetable
