import SchoolTimetable.Jobs.Registry
import SchoolTimetable.Proofs.Entries.Lookup
import SchoolTimetable.Proofs.Sequencing

/-!
What each guarded section does to the jobs, the queue and the table of active terms, and what it answers.
-/

namespace SchoolTimetable.JobRegistry

variable {Failure : Type} {registry : JobRegistry} {id other term : String} {job : Job}

def reserved (term : String) (registry : JobRegistry) : JobRegistry :=
  { registry with active := Entries.put term none registry.active }

theorem register_reserved (id : String) (job : Job) (registry : JobRegistry) :
    (registry.reserved job.term).register id job = registry.register id job := by
  simp only [register, reserved, Entries.put_put]

section Answers

theorem reserve_of_free (free : Entries.get? term registry.active = none) :
    (reserve term : JobAction Failure Unit).run registry =
      .ok () (registry.reserved term) := by
  simp only [reserve, EStateM.run_bind, EStateM.run_get, free]
  rfl

theorem reserve_of_taken {holder : Option String}
    (taken : Entries.get? term registry.active = some holder) :
    (reserve term : JobAction Failure Unit).run registry =
      .error (.alreadyRunning term holder) registry := by
  simp only [reserve, EStateM.run_bind, EStateM.run_get, taken]
  rfl

theorem reserve_refused_iff (registry : JobRegistry) (term : String) :
    (∃ holder, (reserve term : JobAction Failure Unit).run registry =
      .error (.alreadyRunning term holder) registry) ↔
      (Entries.get? term registry.active).isSome := by
  cases holder : Entries.get? term registry.active with
  | some job => exact ⟨fun _ => rfl, fun _ => ⟨job, reserve_of_taken holder⟩⟩
  | none =>
      rw [reserve_of_free holder]
      simp

theorem release_run (term : String) (registry : JobRegistry) :
    (release term : JobAction Failure Unit).run registry =
      .ok () { registry with active := Entries.erase term registry.active } := rfl

theorem enter_of_open (isOpen : registry.closed = false) :
    (enter id job : JobAction Failure Unit).run registry =
      .ok () { registry.register id job with queue := registry.queue ++ [id] } := by
  have stillOpen : ¬ (registry.register id job).closed = true := by
    change ¬ registry.closed = true
    rw [isOpen]
    decide
  refine run_bind_ok.2 ⟨(), registry.register id job, rfl, run_bind_ok.2 ⟨_, _, rfl, ?_⟩⟩
  rw [if_neg stillOpen]
  rfl

theorem enter_of_closed (closed : registry.closed = true) :
    (enter id job : JobAction Failure Unit).run registry =
      .error .poolClosed (registry.register id job) := by
  have stillClosed : (registry.register id job).closed = true := closed
  simp only [enter, EStateM.run_bind, EStateM.run_modify, EStateM.run_get]
  rw [if_pos stillClosed]
  rfl

theorem enter_of_reserved (isOpen : registry.closed = false) :
    (enter id job : JobAction Failure Unit).run (registry.reserved job.term) =
      .ok () { registry.register id job with queue := registry.queue ++ [id] } := by
  have stillOpen : (registry.reserved job.term).closed = false := isOpen
  rw [enter_of_open stillOpen, register_reserved]
  rfl

theorem enter_of_reserved_closed (closed : registry.closed = true) :
    (enter id job : JobAction Failure Unit).run (registry.reserved job.term) =
      .error .poolClosed (registry.register id job) := by
  have stillClosed : (registry.reserved job.term).closed = true := closed
  rw [enter_of_closed stillClosed, register_reserved]

theorem find_of_registered (registered : registry.job? id = some job) :
    (find id : JobAction Failure Job).run registry = .ok job registry := by
  simp only [find, EStateM.run_bind, EStateM.run_get, registered]
  rfl

theorem find_of_unknown (unknown : registry.job? id = none) :
    (find id : JobAction Failure Job).run registry = .error (.notFound id) registry := by
  simp only [find, EStateM.run_bind, EStateM.run_get, unknown]
  rfl

def Waits (registry : JobRegistry) (id : String) : Prop :=
  (∃ job, registry.job? id = some job ∧ job.state = .pending) ∧ id ∈ registry.queue

theorem cancel_of_waiting (waits : registry.Waits id) :
    (cancel id : JobAction Failure Unit).run registry =
      .ok () ((registry.take id).finish id .cancelled none) := by
  obtain ⟨⟨job, registered, pending⟩, queued⟩ := waits
  simp only [cancel, EStateM.run_bind, find_of_registered registered, EStateM.run_get]
  rw [if_pos ⟨pending, List.contains_iff_mem.2 queued⟩]
  rfl

theorem cancel_of_active (registered : registry.job? id = some job) (notWaiting : ¬ registry.Waits id)
    (active : job.state.isActive = true) :
    (cancel id : JobAction Failure Unit).run registry =
      .ok () (registry.changeJob id fun job => { job with solver := job.solver.cancel }) := by
  have passed : ¬ (job.state = .pending ∧ registry.queue.contains id = true) :=
    fun waits => notWaiting ⟨⟨job, registered, waits.1⟩, List.contains_iff_mem.1 waits.2⟩
  simp only [cancel, EStateM.run_bind, find_of_registered registered, EStateM.run_get]
  rw [if_neg passed, if_pos active]
  rfl

theorem cancel_of_ended (registered : registry.job? id = some job)
    (ended : job.state.isActive = false) :
    (cancel id : JobAction Failure Unit).run registry = .ok () registry := by
  have passed : ¬ (job.state = .pending ∧ registry.queue.contains id = true) := by
    rintro ⟨pending, -⟩
    rw [pending] at ended
    cases ended
  simp only [cancel, EStateM.run_bind, find_of_registered registered, EStateM.run_get]
  rw [if_neg passed, ended]
  rfl

theorem cancel_of_unknown (unknown : registry.job? id = none) :
    (cancel id : JobAction Failure Unit).run registry = .error (.notFound id) registry := by
  simp only [cancel, EStateM.run_bind, find_of_unknown unknown]

theorem cancel_of_registered (registered : registry.job? id = some job) :
    ∃ after, (cancel id : JobAction Failure Unit).run registry = .ok () after := by
  by_cases waits : registry.Waits id
  · exact ⟨_, cancel_of_waiting waits⟩
  · cases active : job.state.isActive with
    | true => exact ⟨_, cancel_of_active registered waits active⟩
    | false => exact ⟨_, cancel_of_ended registered active⟩

/-- The registry without the jobs that are stale as of some time. -/
def withoutStale (now : Float) (registry : JobRegistry) : JobRegistry :=
  { registry with jobs := registry.jobs.filter fun entry => !registry.isStale now entry.2 }

theorem drop_stale_run (now : Float) (registry : JobRegistry) :
    (dropStale now : JobAction Failure Nat).run registry =
      .ok (registry.jobs.length - (registry.withoutStale now).jobs.length)
        (registry.withoutStale now) := rfl

theorem clean_up_run (registry : JobRegistry) :
    (cleanUp : JobAction Failure Nat).run registry =
      (dropStale registry.clock.now : JobAction Failure Nat).run registry := by
  unfold cleanUp
  rw [EStateM.run_bind]
  rfl

end Answers

section Jobs

theorem job_change_job (id other : String) (change : Job → Job) (registry : JobRegistry) :
    (registry.changeJob id change).job? other =
      if other = id then (registry.job? other).map change else registry.job? other :=
  Entries.get_modify id other change registry.jobs

theorem job_of_put {after : JobRegistry} (jobs : after.jobs = Entries.put id job registry.jobs)
    (other : String) : after.job? other = if other = id then some job else registry.job? other := by
  unfold job?
  rw [jobs]
  exact Entries.get_put id other job registry.jobs

theorem finish_of_registered (registered : registry.job? id = some job) (state : JobState)
    (error : Option String) :
    registry.finish id state error =
      { registry.changeJob id (Job.ended state error registry.clock.now) with
        active := if Entries.get? job.term registry.active = some (some id)
          then Entries.erase job.term registry.active else registry.active } := by
  unfold finish
  simp only [registered]
  split <;> rfl

theorem job_without_stale (distinct : (Entries.keys registry.jobs).Nodup) (now : Float) (id : String) :
    (registry.withoutStale now).job? id =
      (registry.job? id).filter fun job => !registry.isStale now job :=
  Entries.get_filter distinct (fun job => !registry.isStale now job) id

end Jobs

end SchoolTimetable.JobRegistry
