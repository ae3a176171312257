import SchoolTimetable.Proofs.Jobs.Order
import SchoolTimetable.Proofs.Search.Endings
import SchoolTimetable.Proofs.Solution.Resolution

/-!
What a worker does with a job that it has begun with, step by step: it searches as its solver runs, notes the best
and ends the job, each at the registry as the request to go on has it.
-/

namespace SchoolTimetable

namespace JobRegistry

variable {registry : JobRegistry} {id : String} {job : Job}

theorem change_change (registry : JobRegistry) (id : String) (first second : Job → Job) :
    (registry.changeJob id first).changeJob id second = registry.changeJob id (second ∘ first) := by
  unfold changeJob
  dsimp only
  rw [Entries.modify_modify]

theorem change_congr (distinct : (Entries.keys registry.jobs).Nodup)
    (registered : registry.job? id = some job) {first second : Job → Job}
    (same : first job = second job) : registry.changeJob id first = registry.changeJob id second := by
  unfold changeJob
  rw [Entries.modify_congr distinct registered same]

theorem change_nothing (distinct : (Entries.keys registry.jobs).Nodup)
    (registered : registry.job? id = some job) {change : Job → Job} (same : change job = job) :
    registry.changeJob id change = registry := by
  have identity : registry.changeJob id change = registry.changeJob id fun job => job :=
    change_congr distinct registered same
  rw [identity]
  unfold changeJob
  rw [Entries.modify_same]

end JobRegistry

namespace JobManager

open JobRegistry

variable {manager : JobManager} {id : String} {job : Job}

section Onto

variable (manager : JobManager) (id : String) (registry : JobRegistry) (work : Option WorkStage)
  (past : List JobEvent)

@[simp] theorem onto_registry : (manager.onto id registry work past).registry = registry := rfl

@[simp] theorem onto_work : (manager.onto id registry work past).work id = work := Function.update_self ..

@[simp] theorem onto_past : (manager.onto id registry work past).past id = past := Function.update_self ..

@[simp] theorem onto_onto (after : JobRegistry) (laterWork : Option WorkStage)
    (laterPast : List JobEvent) : (manager.onto id registry work past).onto id after laterWork laterPast =
      manager.onto id after laterWork laterPast := by
  unfold onto
  simp only [Function.update_idem]

theorem onto_same : manager.onto id manager.registry (manager.work id) (manager.past id) = manager := by
  unfold onto
  simp only [Function.update_eq_self]

end Onto

/-- A caller reserves its term and enters its job, or finds that the workers have gone. -/
theorem performs_enter {Failure : Type} {after : JobRegistry}
    (free : Entries.get? job.term manager.registry.active = none) (fresh : manager.past id = [])
    (isNew : job.IsNew)
    (answer : (enter id job : JobAction Failure Unit).run (manager.registry.reserved job.term) =
        .ok () after ∨
      (enter id job : JobAction Failure Unit).run (manager.registry.reserved job.term) =
        .error .poolClosed after) :
    Performs manager (manager.onto id after (manager.work id) (.entered :: manager.past id)) := by
  have taken : (reserve job.term : JobAction Failure Unit).run manager.registry =
      .ok () (manager.registry.reserved job.term) := reserve_of_free free
  let reserving : JobManager :=
    { manager with
      registry := manager.registry.reserved job.term
      starting := job.term :: manager.starting }
  have starting : job.term ∈ reserving.starting := List.mem_cons_self
  have cleared : reserving.starting.erase job.term = manager.starting := List.erase_cons_head ..
  have entering : Step reserving (({ reserving with starting := manager.starting }).onto id after
      (manager.work id) (.entered :: manager.past id)) := by
    rw [← cleared]
    rcases answer with done | refused
    · exact .enter starting fresh isNew done
    · exact .strand starting fresh isNew refused
  exact .tail (.single (.reserve taken)) entering

theorem performs_begin (queued : id ∈ manager.registry.queue) :
    Performs manager (manager.onto id ((manager.registry.take id).begin id) (some .solving)
      (.begun :: manager.past id)) := by
  have taken : Performs manager _ := .single (.take queued)
  have begun := Step.begin (onto_work manager id (manager.registry.take id) (some .taken)
    (manager.past id))
  simp only [onto_registry, onto_past, onto_onto] at begun
  exact taken.tail begun

structure Handles (id : String) (manager next : JobManager) : Prop where
  performs : Performs manager next
  starting : next.starting = manager.starting
  work : next.work id = none ∨ next.work id = some .solving
  others : ∀ other, other ≠ id →
    next.work other = manager.work other ∧ next.past other = manager.past other

theorem handles_of_onto {after : JobRegistry} {work : Option WorkStage} {past : List JobEvent}
    (performs : Performs manager (manager.onto id after work past))
    (free : work = none ∨ work = some .solving) : Handles id manager (manager.onto id after work past) where
  performs := performs
  starting := rfl
  work := by
    rw [onto_work]
    exact free
  others := by
    intro other different
    unfold onto
    dsimp only
    rw [Function.update_of_ne different, Function.update_of_ne different]
    exact ⟨rfl, rfl⟩

theorem performs_run {solver : Solver Twister} {scores : List Score} (orderly : Orderly manager)
    (work : manager.work id = some .solving) (registered : manager.registry.job? id = some job)
    (run : Solver.Run job.solver scores solver) :
    Performs manager (manager.onto id (manager.registry.changeJob id (Job.withSolver solver))
      (some .solving) (manager.past id)) := by
  have becomes : ∀ solver : Solver Twister,
      (manager.onto id (manager.registry.changeJob id (Job.withSolver solver)) (some .solving)
        (manager.past id)).registry.job? id = some (job.withSolver solver) :=
    fun solver => (touches_change_job registered (Job.withSolver solver)).becomes
  -- Each step of the run is one of the manager, with the solver that the job has by then.
  induction run with
  | start =>
      rw [change_nothing orderly.distinct registered rfl, ← work, onto_same]
  | @advance scores solver run ih =>
      have step := Step.search (onto_work manager id
        (manager.registry.changeJob id (Job.withSolver solver)) (some .solving) (manager.past id))
      simp only [onto_registry, onto_work, onto_past, onto_onto, change_change] at step
      exact ih.tail step
  | @cancel scores solver run ih =>
      have step := Step.askLate (becomes solver)
      simp only [onto_registry, onto_work, onto_past, onto_onto, change_change] at step
      exact ih.tail step
  | @watch scores solver run clock ih =>
      have step := Step.watch (becomes solver) clock
      simp only [onto_registry, onto_work, onto_past, onto_onto, change_change] at step
      exact ih.tail step

theorem performs_recorded {solver : Solver Twister} {scores : List Score} (orderly : Orderly manager)
    (work : manager.work id = some .solving) (registered : manager.registry.job? id = some job)
    (run : Solver.Run job.solver scores solver) :
    Performs manager (manager.onto id (manager.registry.recordBest id solver) (some .solving)
      (manager.past id)) := by
  let searched := manager.onto id (manager.registry.changeJob id (Job.withSolver solver)) (some .solving)
    (manager.past id)
  have becomes : searched.registry.job? id = some (job.withSolver solver) :=
    (touches_change_job registered (Job.withSolver solver)).becomes
  have step := Step.note (onto_work manager id _ _ _) becomes
  simp only [onto_registry, onto_work, onto_past, onto_onto, recordBest, change_change] at step
  exact (performs_run orderly work registered run).tail step

theorem performs_failing {message : String} {after : JobRegistry} {past : List JobEvent}
    (performs : Performs manager (manager.onto id after (some (.failing message)) past)) :
    Performs manager (manager.onto id (after.finish id .failed (some message)) none past) := by
  have step := Step.fail (onto_work manager id after (some (.failing message)) past)
  simp only [onto_registry, onto_past, onto_onto] at step
  exact performs.tail step

/-- A job ends well whose search has a result, if the document is built and the sink takes it. -/
theorem performs_success {result : SolveResult} {solution : Solution} {delivered : JobRegistry}
    (work : manager.work id = some .solving) (registered : manager.registry.job? id = some job)
    (outcome : job.solver.outcome? = some (.ok result))
    (built : result.solution job.config = .ok solution)
    (delivery : manager.registry.deliver solution = .ok delivered) :
    Performs manager (manager.onto id (delivered.succeed id result solution) none
      (if manager.registry.sink.isPresent then .handed solution none :: manager.past id
        else manager.past id)) := by
  have documented : Performs manager _ := .single (.build work registered outcome built)
  have taken := Step.deliver (onto_work manager id manager.registry (some (.built result solution))
    (manager.past id)) delivery
  simp only [onto_registry, onto_past, onto_onto] at taken
  have ended := Step.succeed (onto_work manager id delivered (some (.delivered result solution))
    (if manager.registry.sink.isPresent then .handed solution none :: manager.past id
      else manager.past id))
  simp only [onto_registry, onto_past, onto_onto] at ended
  exact (documented.tail taken).tail ended

/-- A worker whose search is done builds the document, hands it to the sink and ends the job, unless it was
told to pause. -/
theorem handles_conclude (work : manager.work id = some .solving)
    (registered : manager.registry.job? id = some job) :
    ∃ next, Handles id manager next ∧ next.registry = manager.registry.conclude id job := by
  have here : Performs manager manager := .refl
  have waits : Handles id manager manager := ⟨here, rfl, .inr work, fun _ _ => ⟨rfl, rfl⟩⟩
  unfold conclude
  cases outcome : job.solver.outcome? with
  | none => exact ⟨manager, waits, rfl⟩
  | some ended =>
      cases ended with
      | error fault =>
          have failing := here.tail (.solveFails work registered outcome)
          exact ⟨_, handles_of_onto (performs_failing failing) (.inl rfl), rfl⟩
      | ok result =>
          dsimp only
          cases built : result.solution job.config with
          | error lessons =>
              have failing := here.tail (.buildFails work registered outcome built)
              exact ⟨_, handles_of_onto (performs_failing failing) (.inl rfl), rfl⟩
          | ok solution =>
              dsimp only
              split
              · exact ⟨manager, waits, rfl⟩
              cases delivery : manager.registry.deliver solution with
              | error message =>
                  have documented := here.tail (.build work registered outcome built)
                  have refused := Step.refuse (onto_work manager id manager.registry
                    (some (.built result solution)) (manager.past id)) delivery
                  rw [onto_onto] at refused
                  have failing := performs_failing (documented.tail refused)
                  exact ⟨_, handles_of_onto failing (.inl rfl), rfl⟩
              | ok delivered =>
                  have ended := performs_success work registered outcome built delivery
                  exact ⟨_, handles_of_onto ended (.inl rfl), rfl⟩

theorem Handles.trans {middle next : JobManager} (first : Handles id manager middle)
    (second : Handles id middle next) : Handles id manager next where
  performs := first.performs.trans second.performs
  starting := second.starting.trans first.starting
  work := second.work
  others := by
    intro other different
    obtain ⟨work, past⟩ := first.others other different
    obtain ⟨laterWork, laterPast⟩ := second.others other different
    exact ⟨laterWork.trans work, laterPast.trans past⟩

end JobManager

/-- The search of a job with a limit on its moves runs until it is over or has come to what was asked for. -/
theorem Job.Solves.runs_on {job : Job} (solves : job.Solves)
    (limited : Solver.LimitsMoves job.config.limits) (clock : Clock)
    (condition : Solver Twister → Bool) :
    ∃ scores, Solver.Run job.solver scores
      (Solver.advanceWhile condition ({ job.solver with clock := clock } : Solver Twister).stepBound
        { job.solver with clock := clock }) := by
  obtain ⟨_, timetable, _, placer, start, source, _, assembled, run⟩ := solves
  have watched := run.watch clock
  obtain ⟨sameBase, sameConfig, -, -⟩ := watched.accounts
  have limitsMoves : Solver.LimitsMoves
      ({ job.solver with clock := clock } : Solver Twister).config.limits := by
    rw [sameConfig]
    exact limited
  have bound := Solver.step_bound_of_limits limitsMoves
  rw [sameConfig, sameBase] at bound
  have left := Solver.steps_left_le (Solver.roundBound job.config.limits timetable)
    ({ job.solver with clock := clock } : Solver Twister)
  obtain ⟨count, same, -⟩ :=
    Solver.ends_within assembled limited watched condition (left.trans (Nat.le_succ _))
  have started : Solver.Run job.solver [] { job.solver with clock := clock } := .watch .start clock
  obtain ⟨scores, runs⟩ := started.iterate count
  rw [bound, same]
  exact ⟨scores, runs⟩

namespace JobManager

open JobRegistry

variable {manager : JobManager} {id : String} {job : Job}

/-- What a request to go on makes of a job that runs, its worker makes of it by steps. -/
theorem handles_proceed (orderly : Orderly manager) (work : manager.work id = some .solving)
    (registered : manager.registry.job? id = some job)
    (limited : Solver.LimitsMoves job.config.limits) :
    ∃ next, Handles id manager next ∧ next.registry = manager.registry.proceed id := by
  have solves := orderly.solves id job registered
  -- Whatever the search comes to is noted, and the job is ended if the search is over.
  have recorded : ∀ {solver : Solver Twister} {scores : List Score},
      Solver.Run job.solver scores solver →
      Handles id manager (manager.onto id (manager.registry.recordBest id solver) (some .solving)
        (manager.past id)) :=
    fun run => handles_of_onto (performs_recorded orderly work registered run) (.inr rfl)
  have concluded : ∀ {solver : Solver Twister} {scores : List Score},
      Solver.Run job.solver scores solver →
      ∃ next, Handles id manager next ∧ next.registry =
        (manager.registry.recordBest id solver).conclude id { job with solver := solver } := by
    intro solver scores run
    have becomes := (touches_change_job registered fun job : Job =>
      { job with solver := solver, best := solver.bestScore? }).becomes
    obtain ⟨next, handles, same⟩ := handles_conclude (onto_work manager id
      (manager.registry.recordBest id solver) (some .solving) (manager.past id)) becomes
    exact ⟨next, (recorded run).trans handles, same⟩
  unfold proceed
  simp only [registered]
  split
  · exact ⟨manager, ⟨.refl, rfl, .inr work, fun _ _ => ⟨rfl, rfl⟩⟩, rfl⟩
  · rename_i count pause
    obtain ⟨scores, run⟩ := solves.runs_on limited manager.registry.clock
      fun state => state.published.length < count
    split
    · exact concluded run
    · exact ⟨_, recorded run, rfl⟩
  · obtain ⟨scores, run⟩ := solves.runs_on limited manager.registry.clock fun _ => true
    exact concluded run

def openHouse : JobRegistry :=
  ⟨MusicMorning.config, 1, 1800, .taking, .still, [], [], [], false, []⟩

theorem open_house_made :
    (withWorkers 1 MusicMorning.config 1800 .taking : Except (JobFault Empty) JobRegistry) =
      .ok openHouse := rfl

def morningJob (config : Config) : Job := .pending "T" config MusicMorning.timetable .still none

def morningQueued (config : Config) : JobRegistry :=
  { openHouse.register "a" (morningJob config) with queue := ["a"] }

theorem morning_enters {config : Config} (resourced : config.allowUnresourced = false) :
    Performs (idle openHouse) ((idle openHouse).onto "a" (morningQueued config) none [.entered]) := by
  obtain ⟨warnings, assembled⟩ := MusicMorning.assembles resourced
  have isNew : (morningJob config).IsNew := ⟨MusicMorning.problem, _, warnings, _, _, _, assembled, rfl⟩
  have done : (enter "a" (morningJob config) : JobAction Empty Unit).run (openHouse.reserved "T") =
      .ok () (morningQueued config) := enter_of_open rfl
  exact performs_enter rfl rfl isNew (.inl done)

def morningBegun (config : Config) : JobManager :=
  (idle openHouse).onto "a" (((morningQueued config).take "a").begin "a") (some .solving) [.begun, .entered]

theorem morning_begins {config : Config} (resourced : config.allowUnresourced = false) :
    Performs (idle openHouse) (morningBegun config) := by
  have begun : Performs ((idle openHouse).onto "a" (morningQueued config) none [.entered]) _ :=
    performs_begin List.mem_cons_self
  rw [onto_onto, onto_registry, onto_past] at begun
  exact (morning_enters resourced).trans begun

def morningSolved (config : Config) (solver : Solver Twister) : JobManager :=
  (morningBegun config).onto "a" ((morningBegun config).registry.changeJob "a" (Job.withSolver solver))
    (some .solving) [.begun, .entered]

theorem morning_runs {config : Config} (resourced : config.allowUnresourced = false) {solver : Solver Twister}
    {scores : List Score} (run : Solver.Run (morningJob config).solver scores solver) :
    Performs (idle openHouse) (morningSolved config solver) ∧
      (morningSolved config solver).registry.job? "a" =
        some { morningJob config with state := .running, solver := solver } := by
  have begun := morning_begins resourced
  have orderly := (orderly_of_workers open_house_made).performs begun
  have registered : (morningBegun config).registry.job? "a" =
      some { morningJob config with state := .running } := rfl
  exact ⟨begun.trans (performs_run orderly (onto_work ..) registered run),
    (touches_change_job registered (Job.withSolver solver)).becomes⟩

end JobManager

end SchoolTimetable
