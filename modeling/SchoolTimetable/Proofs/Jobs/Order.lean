import SchoolTimetable.Proofs.Jobs.Effects

/-!
Whatever callers and workers do, and in whatever order: jobs, queue, workers and the table of active terms fit
together at all times.
-/

namespace SchoolTimetable

namespace JobRegistry

variable {registry before after : JobRegistry} {id other term : String} {job changed : Job}

theorem not_holds_of_unknown (unknown : registry.job? id = none) : ¬ registry.Holds id term := by
  rintro ⟨job, registered, -⟩
  rw [unknown] at registered
  cases registered

theorem holds_iff_of_registered (registered : registry.job? id = some job) :
    registry.Holds id term ↔ job.term = term ∧ job.state.isActive = true := by
  constructor
  · rintro ⟨_, same, ofTerm, active⟩
    obtain rfl := Option.some.inj (registered.symm.trans same)
    exact ⟨ofTerm, active⟩
  · rintro ⟨ofTerm, active⟩
    exact ⟨job, registered, ofTerm, active⟩

theorem Touches.holds_of_ne (touches : Touches id job changed before after) (different : other ≠ id) :
    after.Holds other term ↔ before.Holds other term := by
  unfold Holds
  rw [touches.others other different]

end JobRegistry

namespace JobManager

open JobRegistry

variable {manager next : JobManager}

theorem orderly_of_workers {workers : Int} {config : Config} {keptSeconds : Float} {sink : Sink}
    {registry : JobRegistry} (made : (withWorkers workers config keptSeconds sink :
      Except (JobFault Empty) JobRegistry) = .ok registry) : Orderly (idle registry) := by
  unfold withWorkers at made
  split at made
  · obtain rfl := Except.ok.inj made
    refine ⟨fun _ => .unknown, ?_, List.nodup_nil, ?_, fun _ => rfl⟩
    · intro id job registered
      cases registered
    · intro term id
      constructor
      · intro held
        cases held
      · rintro ⟨job, registered, -⟩
        cases registered
  · cases made

namespace Orderly

theorem aside {registry : JobRegistry} {starting : List String} (orderly : Orderly manager)
    (jobs : registry.jobs = manager.registry.jobs) (queue : registry.queue = manager.registry.queue)
    (present : registry.sink.isPresent = manager.registry.sink.isPresent)
    (table : ∀ term id, Entries.get? term registry.active = some (some id) ↔
      Entries.get? term manager.registry.active = some (some id))
    (reserved : ∀ term, starting.count term =
      if Entries.get? term registry.active = some none then 1 else 0) :
    Orderly { manager with registry := registry, starting := starting } := by
  have sameJobs : ∀ id, registry.job? id = manager.registry.job? id := by
    intro id
    unfold JobRegistry.job?
    rw [jobs]
  constructor
  · intro id
    dsimp only
    rw [present, sameJobs, queue]
    exact orderly.lives id
  · intro id job registered
    exact orderly.solves id job ((sameJobs id).symm.trans registered)
  · dsimp only
    rw [jobs]
    exact orderly.distinct
  · intro term id
    unfold Holds
    dsimp only
    rw [table, sameJobs]
    exact orderly.table term id
  · exact reserved

end Orderly

theorem Lives.onto {starting : List String} {id : String} {after : JobRegistry}
    {work : Option WorkStage} {past : List JobEvent} (lives : manager.Lives)
    (others : ∀ other, other ≠ id → after.job? other = manager.registry.job? other)
    (queue : ∀ other, other ≠ id → after.queue.count other = manager.registry.queue.count other)
    (present : after.sink.isPresent = manager.registry.sink.isPresent)
    (life : Life manager.registry.sink.isPresent (after.job? id) (after.queue.count id) work past) :
    (({ manager with starting := starting }).onto id after work past).Lives := by
  intro other
  unfold JobManager.onto
  dsimp only
  rw [present]
  by_cases same : other = id
  · subst same
    rw [Function.update_self, Function.update_self]
    exact life
  · rw [Function.update_of_ne same, Function.update_of_ne same, others other same, queue other same]
    exact lives other

namespace Orderly

section Entering

variable {id : String} {job : Job} {after : JobRegistry}

/-- The term was only reserved, so it is the new job that takes it and no other loses it. -/
theorem table_taken (orderly : Orderly manager) (starting : job.term ∈ manager.starting)
    (isNew : job.IsNew) (unknown : manager.registry.job? id = none)
    (jobs : after.jobs = Entries.put id job manager.registry.jobs) (term other : String) :
    Entries.get? term (Entries.put job.term (some id) manager.registry.active) = some (some other) ↔
      after.Holds other term := by
  have registered := job_of_put jobs
  rw [Entries.get_put]
  by_cases own : other = id
  · subst own
    rw [holds_iff_of_registered ((registered other).trans (if_pos rfl))]
    by_cases ofTerm : term = job.term
    · subst ofTerm
      simp [isNew.pending, JobState.isActive]
    · rw [if_neg ofTerm, orderly.table]
      constructor
      · exact fun holds => absurd holds (not_holds_of_unknown unknown)
      · exact fun holds => absurd holds.1.symm ofTerm
  · have untouched : after.Holds other term ↔ manager.registry.Holds other term := by
      unfold Holds
      rw [registered, if_neg own]
    rw [untouched, ← orderly.table]
    by_cases ofTerm : term = job.term
    · subst ofTerm
      rw [if_pos rfl, (orderly.reserved_of_starting starting).1]
      simp [Ne.symm own]
    · rw [if_neg ofTerm]

theorem reserved_taken (orderly : Orderly manager) (starting : job.term ∈ manager.starting)
    (id term : String) :
    (manager.starting.erase job.term).count term =
      if Entries.get? term (Entries.put job.term (some id) manager.registry.active) = some none
      then 1 else 0 := by
  have counted := orderly.reserved term
  rw [Entries.get_put, List.count_erase]
  by_cases same : term = job.term
  · subst same
    simp [(orderly.reserved_of_starting starting).2]
  · simp [same, Ne.symm same, counted]

theorem enters (orderly : Orderly manager) (starting : job.term ∈ manager.starting)
    (unused : manager.past id = []) (isNew : job.IsNew)
    (jobs : after.jobs = Entries.put id job manager.registry.jobs)
    (active : after.active = Entries.put job.term (some id) manager.registry.active)
    (queued : after.queue = manager.registry.queue ∨ after.queue = manager.registry.queue ++ [id])
    (present : after.sink.isPresent = manager.registry.sink.isPresent) :
    Orderly (({ manager with starting := manager.starting.erase job.term }).onto id after
      (manager.work id) (.entered :: manager.past id)) := by
  have before := orderly.lives id
  rw [unused] at before
  obtain ⟨unknown, notQueued, notTaken⟩ := before.of_unused
  have registered := job_of_put jobs
  constructor
  · apply orderly.lives.onto
    · intro other different
      rw [registered, if_neg different]
    · intro other different
      rcases queued with same | longer
      · rw [same]
      · have elsewhere : other ∉ [id] := by simpa using different
        rw [longer, List.count_append, List.count_eq_zero_of_not_mem elsewhere, add_zero]
    · exact present
    · rw [registered, if_pos rfl, unused, notTaken]
      rcases queued with same | longer
      · rw [same, notQueued]
        exact .stranded isNew.pending isNew.blank
      · rw [longer, List.count_append, notQueued, List.count_singleton_self, zero_add]
        exact .waiting isNew.pending isNew.blank
  · intro other otherJob found
    change after.job? other = some otherJob at found
    rw [registered] at found
    split at found
    · obtain rfl := Option.some.inj found
      exact isNew.solves
    · exact orderly.solves other otherJob found
  · change (Entries.keys after.jobs).Nodup
    rw [jobs]
    exact Entries.nodup_keys_adjust _ _ orderly.distinct
  · change ∀ term other, Entries.get? term after.active = some (some other) ↔ after.Holds other term
    rw [active]
    exact orderly.table_taken starting isNew unknown jobs
  · change ∀ term, (manager.starting.erase job.term).count term =
      if Entries.get? term after.active = some none then 1 else 0
    rw [active]
    exact orderly.reserved_taken starting id

end Entering

section Courses

variable {id : String} {job changed : Job} {after : JobRegistry}

theorem table_kept (orderly : Orderly manager) (touches : Touches id job changed manager.registry after)
    (ofTerm : changed.term = job.term) (same : changed.state.isActive = job.state.isActive)
    (term other : String) :
    Entries.get? term manager.registry.active = some (some other) ↔ after.Holds other term := by
  rw [orderly.table]
  by_cases own : other = id
  · subst own
    rw [holds_iff_of_registered touches.registered, holds_iff_of_registered touches.becomes, ofTerm,
      same]
  · exact (touches.holds_of_ne own).symm

theorem table_freed (orderly : Orderly manager) (touches : Touches id job changed manager.registry after)
    (active : job.state.isActive = true) (ended : changed.state.isActive = false)
    (term other : String) :
    Entries.get? term (Entries.erase job.term manager.registry.active) = some (some other) ↔
      after.Holds other term := by
  have holder := orderly.holder touches.registered active
  rw [Entries.get_erase]
  by_cases own : other = id
  · subst own
    rw [holds_iff_of_registered touches.becomes, ended]
    split
    · simp
    · rename_i different
      rw [orderly.table, holds_iff_of_registered touches.registered]
      simp [Ne.symm different]
  · rw [touches.holds_of_ne own, ← orderly.table]
    split
    · rename_i same
      subst same
      simp [holder, Ne.symm own]
    · rfl

theorem reserved_freed (orderly : Orderly manager) (registered : manager.registry.job? id = some job)
    (active : job.state.isActive = true) (term : String) :
    manager.starting.count term =
      if Entries.get? term (Entries.erase job.term manager.registry.active) = some none
      then 1 else 0 := by
  have counted := orderly.reserved term
  rw [Entries.get_erase]
  by_cases same : term = job.term
  · subst same
    rw [orderly.holder registered active] at counted
    simpa using counted
  · rw [if_neg same]
    exact counted

theorem proceeds {work : Option WorkStage} {past events : List JobEvent} {taken : List Solution}
    (orderly : Orderly manager) (touches : Touches id job changed manager.registry after)
    (course : Course manager.registry.sink.isPresent job past changed events taken)
    (life : Life manager.registry.sink.isPresent (some changed) (after.queue.count id) work events)
    (solves : changed.Solves)
    (active : after.active = if changed.state.isActive = job.state.isActive
      then manager.registry.active else Entries.erase job.term manager.registry.active) :
    Orderly (manager.onto id after work events) := by
  have lives : (manager.onto id after work events).Lives := by
    apply orderly.lives.onto touches.others touches.queue touches.present
    rw [touches.becomes]
    exact life
  have allSolve : ∀ other otherJob, after.job? other = some otherJob → otherJob.Solves := by
    intro other otherJob found
    by_cases own : other = id
    · subst own
      obtain rfl := Option.some.inj (touches.becomes.symm.trans found)
      exact solves
    · rw [touches.others other own] at found
      exact orderly.solves other otherJob found
  have distinct : (Entries.keys after.jobs).Nodup := touches.keys ▸ orderly.distinct
  -- The table changes only with a job that comes to its end.
  by_cases same : changed.state.isActive = job.state.isActive
  · rw [if_pos same] at active
    refine ⟨lives, allSolve, distinct, ?_, ?_⟩
    · change ∀ term other, Entries.get? term after.active = some (some other) ↔
        after.Holds other term
      rw [active]
      exact orderly.table_kept touches course.same_term same
    · change ∀ term, manager.starting.count term =
        if Entries.get? term after.active = some none then 1 else 0
      rw [active]
      exact orderly.reserved
  · rw [if_neg same] at active
    obtain ⟨running, ended⟩ := course.ends same
    refine ⟨lives, allSolve, distinct, ?_, ?_⟩
    · change ∀ term other, Entries.get? term after.active = some (some other) ↔
        after.Holds other term
      rw [active]
      exact orderly.table_freed touches running ended
    · change ∀ term, manager.starting.count term =
        if Entries.get? term after.active = some none then 1 else 0
      rw [active]
      exact orderly.reserved_freed touches.registered running

end Courses

theorem ended_of_stale {id : String} {job : Job} (orderly : Orderly manager) {now : Float}
    (registered : manager.registry.job? id = some job)
    (stale : manager.registry.isStale now job = true) : job.state.isActive = false := by
  have life := orderly.lives id
  rw [registered] at life
  obtain ⟨finished, -⟩ := (Option.any_eq_true_iff_get _ _).1 stale
  rw [life.finished_iff] at finished
  simpa using finished

theorem lives_swept (orderly : Orderly manager) (now : Float) (id : String) :
    Life manager.registry.sink.isPresent ((manager.registry.withoutStale now).job? id)
      (manager.registry.queue.count id) (manager.work id) (manager.past id) := by
  have life := orderly.lives id
  rw [job_without_stale orderly.distinct]
  cases registered : manager.registry.job? id with
  | none =>
      rw [registered] at life
      exact life
  | some job =>
      rw [registered] at life
      by_cases stale : manager.registry.isStale now job = true
      · -- Nobody is at a job that has come to its end, so nothing is left of it but its history.
        obtain ⟨notQueued, notTaken, history⟩ :=
          life.of_ended (orderly.ended_of_stale registered stale)
        rw [Option.filter_some_neg (by simpa using stale), notQueued, notTaken]
        exact .forgotten history
      · rw [Option.filter_some_pos (by simpa using stale)]
        exact life

theorem holds_swept (orderly : Orderly manager) (now : Float) (id term : String) :
    (manager.registry.withoutStale now).Holds id term ↔ manager.registry.Holds id term := by
  unfold Holds
  rw [job_without_stale orderly.distinct]
  constructor
  · rintro ⟨job, found, ofTerm, active⟩
    exact ⟨job, Option.eq_some_of_filter_eq_some found, ofTerm, active⟩
  · rintro ⟨job, registered, ofTerm, active⟩
    refine ⟨job, ?_, ofTerm, active⟩
    rw [registered, Option.filter_some_pos]
    by_contra stale
    have ended := orderly.ended_of_stale registered (by simpa using stale)
    rw [active] at ended
    cases ended

theorem sweeps (orderly : Orderly manager) (now : Float) :
    Orderly { manager with registry := manager.registry.withoutStale now } where
  lives := orderly.lives_swept now
  solves := by
    intro id job found
    change (manager.registry.withoutStale now).job? id = some job at found
    rw [job_without_stale orderly.distinct] at found
    exact orderly.solves id job (Option.eq_some_of_filter_eq_some found)
  distinct := Entries.nodup_keys_filter orderly.distinct _
  table := fun term id => (orderly.table term id).trans (orderly.holds_swept now id term).symm
  reserved := orderly.reserved

theorem step (orderly : Orderly manager) (step : Step manager next) : Orderly next := by
  cases orderly.effect step with
  | aside jobs queue present saved table reserved =>
      exact orderly.aside jobs queue present table reserved
  | enters starting unused isNew jobs active queued present saved =>
      exact orderly.enters starting unused isNew jobs active queued present
  | proceeds touches course life solves active saved =>
      exact orderly.proceeds touches course life solves active
  | sweeps now => exact orderly.sweeps now

theorem performs (orderly : Orderly manager) (performs : Performs manager next) : Orderly next := by
  induction performs with
  | refl => exact orderly
  | tail _ step ih => exact ih.step step

end Orderly

theorem Reached.orderly (reached : manager.Reached) : Orderly manager := by
  obtain ⟨workers, config, keptSeconds, sink, registry, made, performs⟩ := reached
  exact (orderly_of_workers made).performs performs

end JobManager

end SchoolTimetable
