import SchoolTimetable.Proofs.Jobs.LifeCycle
import SchoolTimetable.Proofs.Jobs.Performance
import SchoolTimetable.Proofs.Jobs.Starting

/-!
Requests of callers, with all that the workers do until each job has ended or waits. Each request is a run of the
guarded sections, one of their many orders, so that all that holds in any order holds after any requests.
-/

namespace SchoolTimetable

namespace JobRegistry

variable {Failure Value : Type}

/-- What an action leaves behind, whether or not it is refused. -/
def after (action : JobAction Failure Value) (registry : JobRegistry) : JobRegistry :=
  match action.run registry with
  | .ok _ left => left
  | .error _ left => left

theorem after_of_ok {action : JobAction Failure Value} {registry left : JobRegistry} {value : Value}
    (done : action.run registry = .ok value left) : after action registry = left := by
  simp only [after, done]

theorem after_of_error {action : JobAction Failure Value} {registry left : JobRegistry}
    {fault : JobFault Failure} (refused : action.run registry = .error fault left) :
    after action registry = left := by
  simp only [after, refused]

theorem after_bind {First : Type} (first : JobAction Failure First)
    (next : First → JobAction Failure Value) (registry : JobRegistry) :
    after (first >>= next) registry =
      match first.run registry with
      | .ok value left => after (next value) left
      | .error _ left => left := by
  unfold after
  rw [EStateM.run_bind]
  cases first.run registry <;> rfl

theorem jobs_of_enter {registry left : JobRegistry} {id : String} {job : Job}
    (answer : (enter id job : JobAction Failure Unit).run registry = .ok () left ∨
      (enter id job : JobAction Failure Unit).run registry = .error .poolClosed left) :
    left.jobs = Entries.put id job registry.jobs := by
  cases closed : registry.closed with
  | true =>
      rw [enter_of_closed closed] at answer
      have refused := answer.resolve_left (by simp)
      obtain ⟨-, rfl⟩ := EStateM.Result.error.inj refused
      rfl
  | false =>
      rw [enter_of_open closed] at answer
      have done := answer.resolve_right (by simp)
      obtain ⟨-, rfl⟩ := EStateM.Result.ok.inj done
      rfl

theorem queue_deliver {registry left : JobRegistry} {solution : Solution}
    (done : registry.deliver solution = .ok left) : left.queue = registry.queue := by
  rw [deliver_ok done]

theorem queue_conclude (id : String) (job : Job) (registry : JobRegistry) :
    (registry.conclude id job).queue = registry.queue := by
  unfold conclude
  split
  · rfl
  · exact queue_finish ..
  · split
    · exact queue_finish ..
    · split
      · rfl
      · split
        · exact queue_finish ..
        · rename_i delivered done
          have kept := queue_deliver done
          exact (queue_finish ..).trans kept

theorem queue_proceed (id : String) (registry : JobRegistry) :
    (registry.proceed id).queue = registry.queue := by
  unfold proceed
  split
  · rfl
  · split
    · rfl
    · dsimp only
      split
      · exact queue_conclude ..
      · rfl
    · exact queue_conclude ..

/-- A free worker takes a job from the queue, begins with it and goes on as far as it can. -/
def settleOne (registry : JobRegistry) (id : String) : JobRegistry :=
  if registry.busy < registry.workers then ((registry.take id).begin id).proceed id else registry

theorem settle_eq (registry : JobRegistry) : registry.settle = registry.queue.foldl settleOne registry := rfl

end JobRegistry

namespace JobManager

open JobRegistry

variable {manager next : JobManager} {used : List String} {id : String} {job : Job}

/-- Between requests nobody is starting a job, workers do nothing but search, and every search has a limit on its
moves. -/
structure AtRest (used : List String) (manager : JobManager) : Prop where
  starting : manager.starting = []
  work : ∀ id, manager.work id = none ∨ manager.work id = some .solving
  used : ∀ id, manager.past id ≠ [] → id ∈ used
  limited : ∀ id job, manager.registry.job? id = some job → Solver.LimitsMoves job.config.limits

theorem same_config_of_effect (orderly : Orderly manager) (effect : Effect manager next)
    (registered : next.registry.job? id = some job) (entered : manager.past id ≠ []) :
    ∃ before, manager.registry.job? id = some before ∧ job.config = before.config := by
  cases effect with
  | aside jobs =>
      unfold JobRegistry.job? at registered
      dsimp only at registered
      rw [jobs] at registered
      exact ⟨job, registered, rfl⟩
  | @enters own _ _ _ unused _ jobs =>
      rw [onto_registry, job_of_put jobs] at registered
      by_cases same : id = own
      · subst same
        exact absurd unused entered
      · rw [if_neg same] at registered
        exact ⟨job, registered, rfl⟩
  | @proceeds own before changed _ _ _ _ touches course =>
      rw [onto_registry] at registered
      by_cases same : id = own
      · subst same
        obtain rfl := Option.some.inj (touches.becomes.symm.trans registered)
        exact ⟨before, touches.registered, course.same_config⟩
      · rw [touches.others id same] at registered
        exact ⟨job, registered, rfl⟩
  | sweeps now =>
      dsimp only at registered
      rw [job_without_stale orderly.distinct] at registered
      exact ⟨job, Option.eq_some_of_filter_eq_some registered, rfl⟩

theorem same_config (orderly : Orderly manager) (performs : Performs manager next)
    (entered : manager.past id ≠ []) (registered : next.registry.job? id = some job) :
    ∃ before, manager.registry.job? id = some before ∧ job.config = before.config := by
  induction performs generalizing job with
  | refl => exact ⟨job, registered, rfl⟩
  | tail performs step ih =>
      have later := orderly.performs performs
      have stillEntered := orderly.still_entered performs entered
      obtain ⟨between, known, same⟩ :=
        same_config_of_effect later (later.effect step) registered stillEntered
      obtain ⟨before, registeredBefore, sameBefore⟩ := ih known
      exact ⟨before, registeredBefore, same.trans sameBefore⟩

def ComesTo (manager : JobManager) (used : List String) (registry : JobRegistry) : Prop :=
  ∃ next, Performs manager next ∧ AtRest used next ∧ next.registry = registry

theorem ComesTo.after_steps {middle : JobManager} {registry : JobRegistry}
    (comes : middle.ComesTo used registry) (performs : Performs manager middle) :
    manager.ComesTo used registry := by
  obtain ⟨next, later, rest, same⟩ := comes
  exact ⟨next, performs.trans later, rest, same⟩

namespace AtRest

theorem handles (rest : AtRest used manager) (orderly : Orderly manager)
    (handles : Handles id manager next) (entered : manager.past id ≠ []) : AtRest used next where
  starting := handles.starting.trans rest.starting
  work := by
    intro other
    by_cases same : other = id
    · exact same ▸ handles.work
    · rw [(handles.others other same).1]
      exact rest.work other
  used := by
    intro other known
    by_cases same : other = id
    · exact same ▸ rest.used id entered
    · rw [(handles.others other same).2] at known
      exact rest.used other known
  limited := by
    intro other job registered
    have later := orderly.performs handles.performs
    have known : manager.past other ≠ [] := by
      by_cases same : other = id
      · exact same ▸ entered
      · rw [← (handles.others other same).2]
        exact later.entered_of_registered registered
    obtain ⟨before, registeredBefore, same⟩ := same_config orderly handles.performs known registered
    rw [same]
    exact rest.limited other before registeredBefore

theorem settles_one (rest : AtRest used manager) (orderly : Orderly manager)
    (queued : id ∈ manager.registry.queue) :
    ∃ next, Performs manager next ∧ AtRest used next ∧ next.registry = manager.registry.settleOne id ∧
      ∀ other, other ≠ id → other ∈ manager.registry.queue → other ∈ next.registry.queue := by
  unfold settleOne
  split
  · have life := orderly.lives id
    obtain ⟨job, registered, -⟩ := life.of_waiting (List.count_pos_iff.2 queued)
    have entered := orderly.entered_of_registered registered
    have handlesBegun := handles_of_onto (performs_begin queued) (.inr rfl)
    have solving := onto_work manager id ((manager.registry.take id).begin id) (some .solving)
      (.begun :: manager.past id)
    have orderlyBegun := orderly.performs handlesBegun.performs
    have restBegun := rest.handles orderly handlesBegun entered
    have lifeBegun := orderlyBegun.lives id
    rw [solving] at lifeBegun
    obtain ⟨running, registeredBegun, -⟩ := lifeBegun.of_solving
    obtain ⟨next, handlesNext, proceeded⟩ := handles_proceed orderlyBegun solving registeredBegun
      (restBegun.limited id running registeredBegun)
    have enteredBegun := orderlyBegun.entered_of_registered registeredBegun
    refine ⟨next, handlesBegun.performs.trans handlesNext.performs,
      restBegun.handles orderlyBegun handlesNext enteredBegun, proceeded, ?_⟩
    intro other different waits
    rw [proceeded, queue_proceed]
    exact (List.mem_erase_of_ne different).2 waits
  · exact ⟨manager, .refl, rest, rfl, fun _ _ waits => waits⟩

/-- Free workers that take jobs in the order of the queue take steps only. -/
theorem settles_all {ids : List String} (rest : AtRest used manager) (orderly : Orderly manager)
    (distinct : ids.Nodup) (queued : ∀ id ∈ ids, id ∈ manager.registry.queue) :
    manager.ComesTo used (ids.foldl settleOne manager.registry) := by
  -- Whatever becomes of one job, those that come after it in the queue still wait there.
  induction ids generalizing manager with
  | nil => exact ⟨manager, .refl, rest, rfl⟩
  | cons id others ih =>
      obtain ⟨absent, othersDistinct⟩ := List.nodup_cons.1 distinct
      obtain ⟨middle, performs, restMiddle, same, stillQueued⟩ :=
        rest.settles_one orderly (queued id List.mem_cons_self)
      have waiting : ∀ other ∈ others, other ∈ middle.registry.queue := by
        intro other listed
        apply stillQueued other
        · rintro rfl
          exact absent listed
        · exact queued other (List.mem_cons_of_mem id listed)
      have comes := ih restMiddle (orderly.performs performs) othersDistinct waiting
      rw [same] at comes
      exact comes.after_steps performs

theorem settles (rest : AtRest used manager) (orderly : Orderly manager) :
    manager.ComesTo used manager.registry.settle := by
  have distinct : manager.registry.queue.Nodup := by
    apply List.nodup_iff_count_le_one.2
    intro id
    exact (orderly.lives id).count_le_one
  rw [settle_eq]
  exact rest.settles_all orderly distinct fun _ listed => listed

theorem cancels (rest : AtRest used manager) (orderly : Orderly manager) (Failure : Type) (id : String) :
    manager.ComesTo used (after (cancel id : JobAction Failure Unit) manager.registry) := by
  cases registered : manager.registry.job? id with
  | none =>
      rw [after_of_error (cancel_of_unknown registered)]
      exact ⟨manager, .refl, rest, rfl⟩
  | some job =>
      have entered := orderly.entered_of_registered registered
      have answered : ∃ left, (cancel id : JobAction Failure Unit).run manager.registry = .ok () left :=
        cancel_of_registered registered
      obtain ⟨left, done⟩ := answered
      rw [after_of_ok done]
      have free := rest.work id
      by_cases waits : manager.registry.Waits id
      · have handles := handles_of_onto (.single (.withdraw waits done)) free
        exact ⟨_, handles.performs, rest.handles orderly handles entered, rfl⟩
      · have handles := handles_of_onto (.single (.ask waits done)) free
        exact ⟨_, handles.performs, rest.handles orderly handles entered, rfl⟩

theorem cancels_all (rest : AtRest used manager) (orderly : Orderly manager) (Failure : Type)
    (ids : List String) :
    manager.ComesTo used (after (cancelAll ids : JobAction Failure Unit) manager.registry) := by
  induction ids generalizing manager with
  | nil => exact ⟨manager, .refl, rest, rfl⟩
  | cons id others ih =>
      obtain ⟨middle, performs, restMiddle, same⟩ := rest.cancels orderly Failure id
      unfold cancelAll
      rw [after_bind]
      cases outcome : (cancel id : JobAction Failure Unit).run manager.registry with
      | error fault left =>
          rw [after_of_error outcome] at same
          exact ⟨middle, performs, restMiddle, same⟩
      | ok answer left =>
          rw [after_of_ok outcome] at same
          subst same
          exact (ih restMiddle (orderly.performs performs)).after_steps performs

/-- Where the jobs and the table stay what they are, all is at rest as before. -/
theorem aside {registry : JobRegistry} (rest : AtRest used manager)
    (step : Step manager { manager with registry := registry })
    (jobs : ∀ id job, registry.job? id = some job → manager.registry.job? id = some job) :
    manager.ComesTo used registry :=
  ⟨_, .single step, ⟨rest.starting, rest.work, rest.used,
    fun id job registered => rest.limited id job (jobs id job registered)⟩, rfl⟩

theorem resumes (rest : AtRest used manager) (orderly : Orderly manager) (id : String) :
    manager.ComesTo used (manager.registry.resume id) := by
  unfold resume
  cases registered : manager.registry.job? id with
  | none =>
      have same : manager.registry.changeJob id (fun job => { job with pause := none }) =
          manager.registry := by
        unfold changeJob
        rw [Entries.modify_of_absent registered]
      dsimp only
      rw [same]
      exact ⟨manager, .refl, rest, rfl⟩
  | some job =>
      have entered := orderly.entered_of_registered registered
      have told := handles_of_onto (.single (.tell registered none)) (rest.work id)
      have restTold := rest.handles orderly told entered
      have orderlyTold := orderly.performs told.performs
      dsimp only
      split
      · rename_i running
        -- A job that runs and is not looked after would have come to its end.
        have working : manager.work id = some .solving := by
          apply (rest.work id).resolve_left
          intro idle
          have life := orderly.lives id
          rw [registered, idle] at life
          exact life.not_running running
        have becomes := (touches_change_job registered (Job.told none)).becomes
        obtain ⟨next, proceeded, same⟩ := handles_proceed orderlyTold ((onto_work ..).trans working)
          becomes (rest.limited id job registered)
        have handled := told.trans proceeded
        have comes := (rest.handles orderly handled entered).settles (orderly.performs handled.performs)
        rw [same] at comes
        exact comes.after_steps handled.performs
      · exact ⟨_, told.performs, restTold, rfl⟩

theorem resumes_all (rest : AtRest used manager) (orderly : Orderly manager) (ids : List String) :
    manager.ComesTo used (ids.foldl (fun registry id => registry.resume id) manager.registry) := by
  induction ids generalizing manager with
  | nil => exact ⟨manager, .refl, rest, rfl⟩
  | cons id others ih =>
      obtain ⟨middle, performs, restMiddle, same⟩ := rest.resumes orderly id
      have comes := ih restMiddle (orderly.performs performs)
      rw [same] at comes
      exact comes.after_steps performs

theorem shuts_down (rest : AtRest used manager) (orderly : Orderly manager) (Failure : Type) :
    manager.ComesTo used (after (shutDown : JobAction Failure Unit) manager.registry) := by
  obtain ⟨cancelled, performs, restCancelled, same⟩ :=
    rest.cancels_all orderly Failure manager.registry.activeIds
  unfold shutDown
  rw [after_bind]
  simp only [EStateM.run_get, after_bind]
  cases outcome : (cancelAll manager.registry.activeIds : JobAction Failure Unit).run manager.registry with
  | error fault left =>
      rw [after_of_error outcome] at same
      exact ⟨cancelled, performs, restCancelled, same⟩
  | ok answer left =>
      rw [after_of_ok outcome] at same
      subst same
      obtain ⟨closed, closing, restClosed, sameClosed⟩ := restCancelled.aside .close fun _ _ known => known
      have comes := restClosed.resumes_all
        ((orderly.performs performs).performs closing) manager.registry.activeIds
      rw [sameClosed] at comes
      exact (comes.after_steps closing).after_steps performs

theorem more_used (rest : AtRest used manager) (id : String) : AtRest (id :: used) manager :=
  ⟨rest.starting, rest.work, fun other known => List.mem_cons_of_mem id (rest.used other known),
    rest.limited⟩

theorem entered {after : JobRegistry} {past : List JobEvent} (rest : AtRest used manager)
    (jobs : after.jobs = Entries.put id job manager.registry.jobs)
    (limited : Solver.LimitsMoves job.config.limits) :
    AtRest (id :: used) (manager.onto id after (manager.work id) past) where
  starting := rest.starting
  work := by
    intro other
    unfold onto
    dsimp only
    rw [Function.update_eq_self]
    exact rest.work other
  used := by
    intro other known
    by_cases same : other = id
    · exact same ▸ List.mem_cons_self
    · unfold onto at known
      dsimp only at known
      rw [Function.update_of_ne same] at known
      exact List.mem_cons_of_mem id (rest.used other known)
  limited := by
    intro other otherJob registered
    rw [onto_registry, job_of_put jobs] at registered
    split at registered
    · obtain rfl := Option.some.inj registered
      exact limited
    · exact rest.limited other otherJob registered

section Starts

variable {Failure : Type} {term : String} {config : Option Config} {pause : Option Pause}
  {load : JobAction Failure Problem} {problem : Problem} {timetable : Timetable}
  {warnings : List WorkloadWarning}

theorem enters {registry : JobRegistry} (rest : AtRest used manager) (unused : id ∉ used)
    (free : Entries.get? job.term manager.registry.active = none) (isNew : job.IsNew)
    (limited : Solver.LimitsMoves job.config.limits)
    (answer : (enter id job : JobAction Failure Unit).run (manager.registry.reserved job.term) =
        .ok () registry ∨
      (enter id job : JobAction Failure Unit).run (manager.registry.reserved job.term) =
        .error .poolClosed registry) :
    manager.ComesTo (id :: used) registry := by
  have fresh : manager.past id = [] := by
    by_contra known
    exact unused (rest.used id known)
  have performs := performs_enter free fresh isNew answer
  have jobs := jobs_of_enter answer
  exact ⟨_, performs, rest.entered jobs limited, rfl⟩

theorem starts (rest : AtRest used manager) (orderly : Orderly manager) (unused : id ∉ used)
    (undisturbing : Undisturbing load)
    (limited : Solver.LimitsMoves (config.getD manager.registry.config).limits) :
    manager.ComesTo (id :: used) (after (start id term config pause load) manager.registry) := by
  have stays : manager.ComesTo (id :: used) manager.registry :=
    ⟨manager, .refl, rest.more_used id, rfl⟩
  cases holder : Entries.get? term manager.registry.active with
  | some other =>
      rw [after_of_error (start_of_taken holder)]
      exact stays
  | none =>
      rcases undisturbing (manager.registry.reserved term) with ⟨problem, loaded⟩ | ⟨failure, failed⟩
      · cases outcome : problem.assemble (config.getD manager.registry.config) with
        | error faults =>
            rw [after_of_error (start_of_unassemblable holder loaded outcome)]
            exact stays
        | ok assembled =>
            obtain ⟨timetable, warnings⟩ := assembled
            let job : Job := .pending term (config.getD manager.registry.config) timetable
              manager.registry.clock pause
            have isNew : job.IsNew := ⟨problem, timetable, warnings, _, _, _, outcome, rfl⟩
            cases closed : manager.registry.closed with
            | true =>
                rw [after_of_error (start_of_closed holder loaded outcome closed)]
                have refused : (enter id job : JobAction Failure Unit).run _ = .error .poolClosed _ :=
                  enter_of_reserved_closed closed
                exact rest.enters unused holder isNew limited (.inr refused)
            | false =>
                rw [after_of_ok (start_of_open holder loaded outcome closed)]
                have done : (enter id job : JobAction Failure Unit).run _ = .ok () _ :=
                  enter_of_reserved closed
                obtain ⟨waiting, performs, restWaiting, same⟩ :=
                  rest.enters unused holder isNew limited (.inl done)
                have comes := restWaiting.settles (orderly.performs performs)
                rw [same] at comes
                exact comes.after_steps performs
      · rw [after_of_error (start_of_unloadable holder failed)]
        exact stays

end Starts

theorem cleans_up (rest : AtRest used manager) (orderly : Orderly manager) (Failure : Type) :
    manager.ComesTo used (after (cleanUp : JobAction Failure Nat) manager.registry) := by
  have dropped : (dropStale manager.registry.clock.now : JobAction Failure Nat).run manager.registry =
      .ok _ _ := drop_stale_run manager.registry.clock.now manager.registry
  rw [after_of_ok ((clean_up_run manager.registry).trans dropped)]
  apply rest.aside (.sweep dropped)
  intro id job registered
  rw [job_without_stale orderly.distinct] at registered
  exact Option.eq_some_of_filter_eq_some registered

end AtRest

end JobManager

namespace JobRegistry

/-- What a request makes of the registry. No id is used for two jobs, and every search has a limit on its
moves. -/
inductive Requested : List String → JobRegistry → List String → JobRegistry → Prop
  | start {Failure : Type} {used : List String} {registry : JobRegistry} {id term : String}
      {config : Option Config} {pause : Option Pause} {load : JobAction Failure Problem}
      (unused : id ∉ used) (undisturbing : Undisturbing load)
      (limited : Solver.LimitsMoves (config.getD registry.config).limits) :
      Requested used registry (id :: used) (after (start id term config pause load) registry)
  | cancel (Failure : Type) {used : List String} {registry : JobRegistry} (id : String) :
      Requested used registry used (after (cancel id : JobAction Failure Unit) registry)
  | cleanUp (Failure : Type) {used : List String} {registry : JobRegistry} :
      Requested used registry used (after (cleanUp : JobAction Failure Nat) registry)
  | resume {used : List String} {registry : JobRegistry} (id : String) :
      Requested used registry used (registry.resume id)
  | shutDown (Failure : Type) {used : List String} {registry : JobRegistry} :
      Requested used registry used (after (shutDown : JobAction Failure Unit) registry)
  | advance {used : List String} {registry : JobRegistry} (seconds : Float) :
      Requested used registry used (registry.advance seconds)

inductive Requests : List String → JobRegistry → Prop
  | none {workers : Int} {config : Config} {keptSeconds : Float} {sink : Sink} {registry : JobRegistry}
      (made : (withWorkers workers config keptSeconds sink :
        Except (JobFault Empty) JobRegistry) = .ok registry) : Requests [] registry
  | more {used usedAfter : List String} {registry left : JobRegistry} (before : Requests used registry)
      (request : Requested used registry usedAfter left) : Requests usedAfter left

end JobRegistry

namespace JobManager

open JobRegistry

theorem AtRest.requested {manager : JobManager} {used usedAfter : List String} {left : JobRegistry}
    (rest : AtRest used manager) (orderly : Orderly manager)
    (request : Requested used manager.registry usedAfter left) : manager.ComesTo usedAfter left := by
  cases request with
  | start unused undisturbing limited => exact rest.starts orderly unused undisturbing limited
  | cancel Failure id => exact rest.cancels orderly Failure id
  | cleanUp Failure => exact rest.cleans_up orderly Failure
  | resume id => exact rest.resumes orderly id
  | shutDown Failure => exact rest.shuts_down orderly Failure
  | advance seconds => exact rest.aside (.advance seconds) fun _ _ known => known

theorem at_rest_idle {workers : Int} {config : Config} {keptSeconds : Float} {sink : Sink}
    {registry : JobRegistry} (made : (withWorkers workers config keptSeconds sink :
      Except (JobFault Empty) JobRegistry) = .ok registry) : AtRest [] (idle registry) := by
  refine ⟨rfl, fun _ => .inl rfl, fun _ known => absurd rfl known, ?_⟩
  intro id job registered
  have life := (orderly_of_workers made).lives id
  rw [registered] at life
  exact absurd rfl ((orderly_of_workers made).entered_of_registered registered)

/-- After any requests the registry is one that callers and workers come to by their guarded sections. -/
theorem reached_by_requests {used : List String} {registry : JobRegistry}
    (requests : Requests used registry) :
    ∃ manager, manager.Reached ∧ AtRest used manager ∧ manager.registry = registry := by
  induction requests with
  | @none workers config keptSeconds sink registry made =>
      exact ⟨idle registry, ⟨workers, config, keptSeconds, sink, registry, made, .refl⟩,
        at_rest_idle made, rfl⟩
  | more _ request ih =>
      obtain ⟨manager, reached, rest, rfl⟩ := ih
      obtain ⟨next, performs, restNext, same⟩ := rest.requested reached.orderly request
      obtain ⟨workers, config, keptSeconds, sink, first, made, steps⟩ := reached
      exact ⟨next, ⟨workers, config, keptSeconds, sink, first, made, steps.trans performs⟩, restNext,
        same⟩

end JobManager

end SchoolTimetable
