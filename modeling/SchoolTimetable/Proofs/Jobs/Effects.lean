import SchoolTimetable.Proofs.Jobs.Lives

/-!
What a step does, seen from the jobs. Each step leaves all jobs alone but for one that it enters or that goes on
along its course, or drops jobs that are stale. From this the jobs, the queue, the workers and the table of
active terms stay in order.
-/

namespace SchoolTimetable

/-- What one step can do to a registered job, what happens to it then and what the sink takes. -/
inductive Course (present : Bool) (job : Job) (past : List JobEvent) :
    Job → List JobEvent → List Solution → Prop
  | works {changed : Job} (same : job.SameStanding changed) : Course present job past changed past []
  | begins (state : job.state = .pending) :
      Course present job past { job with state := .running } (.begun :: past) []
  | delivers {result : SolveResult} {solution : Solution} (state : job.state = .running)
      (found : job.Finds result solution) :
      Course present job past job (if present then .handed solution none :: past else past)
        (if present then [solution] else [])
  | refuses {result : SolveResult} {solution : Solution} {message : String} (sunk : present = true)
      (state : job.state = .running) (found : job.Finds result solution) :
      Course present job past job (.handed solution (some message) :: past) []
  | withdraws {now : Float} (state : job.state = .pending) :
      Course present job past (job.ended .cancelled none now) (.withdrawn :: past) []
  | fails {now : Float} {message : String} (state : job.state = .running) :
      Course present job past (job.ended .failed (some message) now) past []
  | succeeds {now : Float} {result : SolveResult} {solution : Solution}
      (state : job.state = .running) :
      Course present job past ((job.solved result solution).ended result.endState none now) past []

theorem Course.same_term {present : Bool} {job changed : Job} {past after : List JobEvent}
    {taken : List Solution} (course : Course present job past changed after taken) :
    changed.term = job.term := by
  cases course with
  | works same => exact same.term
  | _ => rfl

theorem Course.same_config {present : Bool} {job changed : Job} {past after : List JobEvent}
    {taken : List Solution} (course : Course present job past changed after taken) :
    changed.config = job.config := by
  cases course with
  | works same => exact same.config
  | _ => rfl

theorem Course.ends {present : Bool} {job changed : Job} {past after : List JobEvent}
    {taken : List Solution} (course : Course present job past changed after taken)
    (differ : changed.state.isActive ≠ job.state.isActive) :
    job.state.isActive = true ∧ changed.state.isActive = false := by
  have either : job.state.isActive = true := by
    cases course with
    | works same => exact absurd (congrArg JobState.isActive same.state) differ
    | delivers | refuses => exact absurd rfl differ
    | begins state | withdraws state | fails state | succeeds state => rw [state]; rfl
  rw [either] at differ
  exact ⟨either, by simpa using differ⟩

namespace Job

variable {job : Job}

theorem Solves.searched (solves : job.Solves) : job.searched.Solves := by
  obtain ⟨problem, timetable, warnings, placer, start, source, scores, assembled, run⟩ := solves
  exact ⟨problem, timetable, warnings, placer, start, source, _, assembled, run.advance⟩

theorem Solves.watched (solves : job.Solves) (clock : Clock) : (job.watched clock).Solves := by
  obtain ⟨problem, timetable, warnings, placer, start, source, scores, assembled, run⟩ := solves
  exact ⟨problem, timetable, warnings, placer, start, source, scores, assembled, run.watch clock⟩

theorem Solves.asked (solves : job.Solves) : job.asked.Solves := by
  obtain ⟨problem, timetable, warnings, placer, start, source, scores, assembled, run⟩ := solves
  exact ⟨problem, timetable, warnings, placer, start, source, scores, assembled, run.cancel⟩

theorem IsNew.solves (isNew : job.IsNew) : job.Solves := by
  obtain ⟨problem, timetable, warnings, placer, clock, source, assembled, same⟩ := isNew
  refine ⟨problem, timetable, warnings, placer, clock, source, [], assembled, ?_⟩
  have solver := congrArg Job.solver same
  dsimp only at solver
  rw [solver]
  exact .start

theorem IsNew.pending (isNew : job.IsNew) : job.state = .pending := by
  obtain ⟨_, _, _, _, _, _, -, same⟩ := isNew
  rw [same]
  rfl

theorem IsNew.blank (isNew : job.IsNew) : job.Blank := by
  obtain ⟨_, _, _, _, _, _, -, same⟩ := isNew
  rw [same]
  exact ⟨rfl, rfl, rfl⟩

end Job

namespace JobRegistry

variable {Failure : Type} {registry before after : JobRegistry} {id : String} {job changed : Job}

/-- Only one job changes, whatever becomes of the table of active terms. -/
structure Touches (id : String) (job changed : Job) (before after : JobRegistry) : Prop where
  registered : before.job? id = some job
  becomes : after.job? id = some changed
  others : ∀ other, other ≠ id → after.job? other = before.job? other
  queue : ∀ other, other ≠ id → after.queue.count other = before.queue.count other
  present : after.sink.isPresent = before.sink.isPresent
  keys : Entries.keys after.jobs = Entries.keys before.jobs

theorem touches_nothing (registered : registry.job? id = some job) :
    Touches id job job registry registry :=
  ⟨registered, registered, fun _ _ => rfl, fun _ _ => rfl, rfl, rfl⟩

theorem Touches.trans {last : Job} {final : JobRegistry} (first : Touches id job changed before after)
    (second : Touches id changed last after final) : Touches id job last before final where
  registered := first.registered
  becomes := second.becomes
  others := fun other different => (second.others other different).trans (first.others other different)
  queue := fun other different => (second.queue other different).trans (first.queue other different)
  present := second.present.trans first.present
  keys := second.keys.trans first.keys

theorem touches_change_job (registered : registry.job? id = some job) (change : Job → Job) :
    Touches id job (change job) registry (registry.changeJob id change) where
  registered := registered
  becomes := by rw [job_change_job, if_pos rfl, registered, Option.map_some]
  others := by
    intro other different
    rw [job_change_job, if_neg different]
  queue := fun _ _ => rfl
  present := rfl
  keys := Entries.keys_modify id change registry.jobs

theorem touches_take (registered : registry.job? id = some job) :
    Touches id job job registry (registry.take id) where
  registered := registered
  becomes := registered
  others := fun _ _ => rfl
  queue := fun _ different => List.count_erase_of_ne different
  present := rfl
  keys := rfl

theorem touches_finish (registered : registry.job? id = some job) (state : JobState)
    (error : Option String) :
    Touches id job (job.ended state error registry.clock.now) registry
      (registry.finish id state error) := by
  have ended := touches_change_job registered (Job.ended state error registry.clock.now)
  rw [finish_of_registered registered]
  exact ⟨ended.registered, ended.becomes, ended.others, ended.queue, ended.present, ended.keys⟩

theorem touches_succeed (registered : registry.job? id = some job) (result : SolveResult)
    (solution : Solution) :
    Touches id job ((job.solved result solution).ended result.endState none registry.clock.now) registry
      (registry.succeed id result solution) := by
  have solved := touches_change_job registered (Job.solved result solution)
  exact solved.trans (touches_finish solved.becomes result.endState none)

theorem active_finish (registered : registry.job? id = some job)
    (holds : Entries.get? job.term registry.active = some (some id)) (state : JobState)
    (error : Option String) :
    (registry.finish id state error).active = Entries.erase job.term registry.active := by
  rw [finish_of_registered registered]
  exact if_pos holds

theorem saved_finish (id : String) (state : JobState) (error : Option String)
    (registry : JobRegistry) : (registry.finish id state error).saved = registry.saved := by
  unfold finish
  split
  · rfl
  · dsimp only
    split <;> rfl

theorem queue_finish (id : String) (state : JobState) (error : Option String)
    (registry : JobRegistry) : (registry.finish id state error).queue = registry.queue := by
  unfold finish
  split
  · rfl
  · dsimp only
    split <;> rfl

theorem deliver_ok {solution : Solution} (done : registry.deliver solution = .ok after) :
    after = { registry with
      saved := registry.saved ++ if registry.sink.isPresent then [solution] else [] } := by
  unfold deliver at done
  split at done
  · rename_i sink
    obtain rfl := Except.ok.inj done
    have nothing : (if registry.sink.isPresent then [solution] else []) = [] := by rw [sink]; rfl
    rw [nothing, List.append_nil]
  · rename_i sink
    obtain rfl := Except.ok.inj done
    have taken : (if registry.sink.isPresent then [solution] else []) = [solution] := by rw [sink]; rfl
    rw [taken]
  · cases done

theorem deliver_error {solution : Solution} {message : String}
    (refused : registry.deliver solution = .error message) : registry.sink.isPresent = true := by
  unfold deliver at refused
  split at refused
  · cases refused
  · cases refused
  · rename_i sink
    rw [sink]
    rfl

/-- A job is registered for a term and has not come to its end. -/
def Holds (registry : JobRegistry) (id term : String) : Prop :=
  ∃ job, registry.job? id = some job ∧ job.term = term ∧ job.state.isActive = true

end JobRegistry

namespace JobManager

open JobRegistry

variable {manager next : JobManager}

def Lives (manager : JobManager) : Prop :=
  ∀ id, Life manager.registry.sink.isPresent (manager.registry.job? id)
    (manager.registry.queue.count id) (manager.work id) (manager.past id)

/-- Jobs, queue, workers and the table of active terms fit together. -/
structure Orderly (manager : JobManager) : Prop where
  lives : manager.Lives
  solves : ∀ id job, manager.registry.job? id = some job → job.Solves
  distinct : (Entries.keys manager.registry.jobs).Nodup
  table : ∀ term id, Entries.get? term manager.registry.active = some (some id) ↔
    manager.registry.Holds id term
  reserved : ∀ term, manager.starting.count term =
    if Entries.get? term manager.registry.active = some none then 1 else 0

inductive Effect (manager : JobManager) : JobManager → Prop
  | aside {registry : JobRegistry} {starting : List String}
      (jobs : registry.jobs = manager.registry.jobs) (queue : registry.queue = manager.registry.queue)
      (present : registry.sink.isPresent = manager.registry.sink.isPresent)
      (saved : registry.saved = manager.registry.saved)
      (table : ∀ term id, Entries.get? term registry.active = some (some id) ↔
        Entries.get? term manager.registry.active = some (some id))
      (reserved : ∀ term, starting.count term =
        if Entries.get? term registry.active = some none then 1 else 0) :
      Effect manager { manager with registry := registry, starting := starting }
  | enters {id : String} {job : Job} {after : JobRegistry} (starting : job.term ∈ manager.starting)
      (unused : manager.past id = []) (isNew : job.IsNew)
      (jobs : after.jobs = Entries.put id job manager.registry.jobs)
      (active : after.active = Entries.put job.term (some id) manager.registry.active)
      (queued : after.queue = manager.registry.queue ∨ after.queue = manager.registry.queue ++ [id])
      (present : after.sink.isPresent = manager.registry.sink.isPresent)
      (saved : after.saved = manager.registry.saved) :
      Effect manager (({ manager with starting := manager.starting.erase job.term }).onto id after
        (manager.work id) (.entered :: manager.past id))
  | proceeds {id : String} {job changed : Job} {after : JobRegistry} {work : Option WorkStage}
      {past : List JobEvent} {taken : List Solution}
      (touches : Touches id job changed manager.registry after)
      (course : Course manager.registry.sink.isPresent job (manager.past id) changed past taken)
      (life : Life manager.registry.sink.isPresent (some changed) (after.queue.count id) work past)
      (solves : changed.Solves)
      (active : after.active = if changed.state.isActive = job.state.isActive
        then manager.registry.active else Entries.erase job.term manager.registry.active)
      (saved : after.saved = manager.registry.saved ++ taken) :
      Effect manager (manager.onto id after work past)
  | sweeps (now : Float) :
      Effect manager { manager with registry := manager.registry.withoutStale now }

namespace Orderly

variable {term id : String} {job : Job}

theorem holder (orderly : Orderly manager) (registered : manager.registry.job? id = some job)
    (active : job.state.isActive = true) :
    Entries.get? job.term manager.registry.active = some (some id) :=
  (orderly.table job.term id).2 ⟨job, registered, rfl, active⟩

theorem reserved_of_starting (orderly : Orderly manager) (starting : term ∈ manager.starting) :
    Entries.get? term manager.registry.active = some none ∧ manager.starting.count term = 1 := by
  have counted := orderly.reserved term
  have some : 0 < manager.starting.count term := List.count_pos_iff.2 starting
  split at counted
  · rename_i reserved
    exact ⟨reserved, counted⟩
  · omega

theorem effect_of_enter {Failure : Type} {after : JobRegistry} (reserved : job.term ∈ manager.starting)
    (unused : manager.past id = []) (isNew : job.IsNew)
    (done : (enter id job : JobAction Failure Unit).run manager.registry = .ok () after) :
    Effect manager (({ manager with starting := manager.starting.erase job.term }).onto id after
      (manager.work id) (.entered :: manager.past id)) := by
  cases closed : manager.registry.closed with
  | true =>
      rw [enter_of_closed closed] at done
      cases done
  | false =>
      rw [enter_of_open closed] at done
      obtain ⟨-, rfl⟩ := EStateM.Result.ok.inj done
      exact .enters reserved unused isNew rfl rfl (.inr rfl) rfl rfl

theorem effect_of_strand {Failure : Type} {after : JobRegistry} (reserved : job.term ∈ manager.starting)
    (unused : manager.past id = []) (isNew : job.IsNew)
    (refused : (enter id job : JobAction Failure Unit).run manager.registry =
      .error .poolClosed after) :
    Effect manager (({ manager with starting := manager.starting.erase job.term }).onto id after
      (manager.work id) (.entered :: manager.past id)) := by
  cases closed : manager.registry.closed with
  | true =>
      rw [enter_of_closed closed] at refused
      obtain ⟨-, rfl⟩ := EStateM.Result.error.inj refused
      exact .enters reserved unused isNew rfl rfl (.inl rfl) rfl rfl
  | false =>
      rw [enter_of_open closed] at refused
      cases refused

theorem effect_of_reserve {Failure : Type} {after : JobRegistry} (orderly : Orderly manager)
    (done : (reserve term : JobAction Failure Unit).run manager.registry = .ok () after) :
    Effect manager { manager with registry := after, starting := term :: manager.starting } := by
  cases holder : Entries.get? term manager.registry.active with
  | some job =>
      rw [reserve_of_taken holder] at done
      cases done
  | none =>
      rw [reserve_of_free holder] at done
      obtain ⟨-, rfl⟩ := EStateM.Result.ok.inj done
      refine .aside rfl rfl rfl rfl ?_ ?_
      · intro other id
        unfold JobRegistry.reserved
        rw [Entries.get_put]
        split
        · rename_i same
          subst same
          simp [holder]
        · rfl
      · intro other
        have before := orderly.reserved other
        unfold JobRegistry.reserved
        rw [Entries.get_put, List.count_cons]
        by_cases same : other = term
        · subst same
          rw [holder] at before
          simp [before]
        · simp [same, Ne.symm same, before]

theorem effect_of_release {Failure : Type} {after : JobRegistry} (orderly : Orderly manager)
    (starting : term ∈ manager.starting)
    (done : (release term : JobAction Failure Unit).run manager.registry = .ok () after) :
    Effect manager { manager with registry := after, starting := manager.starting.erase term } := by
  obtain ⟨held, once⟩ := orderly.reserved_of_starting starting
  rw [release_run] at done
  obtain ⟨-, rfl⟩ := EStateM.Result.ok.inj done
  refine .aside rfl rfl rfl rfl ?_ ?_
  · intro other id
    dsimp only
    rw [Entries.get_erase]
    split
    · rename_i same
      subst same
      simp [held]
    · rfl
  · intro other
    have before := orderly.reserved other
    dsimp only
    rw [Entries.get_erase, List.count_erase]
    by_cases same : other = term
    · subst same
      simp [once]
    · simp [same, Ne.symm same, before]

theorem effect_of_work {changed : Job} {after : JobRegistry} {work : Option WorkStage}
    (touches : Touches id job changed manager.registry after) (same : job.SameStanding changed)
    (active : after.active = manager.registry.active) (saved : after.saved = manager.registry.saved)
    (solves : changed.Solves)
    (life : Life manager.registry.sink.isPresent (some changed) (after.queue.count id) work
      (manager.past id)) :
    Effect manager (manager.onto id after work (manager.past id)) := by
  apply Effect.proceeds touches (.works same) life solves
  · rw [same.state, if_pos rfl]
    exact active
  · rw [List.append_nil]
    exact saved

theorem effect_of_take (orderly : Orderly manager) (queued : id ∈ manager.registry.queue) :
    Effect manager (manager.onto id (manager.registry.take id) (some .taken) (manager.past id)) := by
  have life := orderly.lives id
  obtain ⟨job, registered, state, blank, once, -, past⟩ := life.of_waiting (List.count_pos_iff.2 queued)
  apply effect_of_work (touches_take registered) (.refl job) rfl rfl (orderly.solves id job registered)
  have emptied : (manager.registry.take id).queue.count id = 0 := by
    change (manager.registry.queue.erase id).count id = 0
    rw [List.count_erase_self, once]
  rw [emptied, past]
  exact .taken state blank

theorem effect_of_begin (orderly : Orderly manager) (work : manager.work id = some .taken) :
    Effect manager
      (manager.onto id (manager.registry.begin id) (some .solving) (.begun :: manager.past id)) := by
  have life := orderly.lives id
  rw [work] at life
  obtain ⟨job, registered, state, blank, notQueued, past⟩ := life.of_taken
  have touches := touches_change_job registered fun job => { job with state := .running }
  apply Effect.proceeds touches (.begins state)
  · change Life _ _ (manager.registry.queue.count id) _ _
    rw [notQueued, past]
    exact .solving rfl ⟨blank.solution, blank.error, blank.finishedAt⟩
  · exact orderly.solves id job registered
  · rw [state]
    rfl
  · exact (List.append_nil _).symm

theorem effect_of_search (orderly : Orderly manager) (work : manager.work id = some .solving) :
    Effect manager (manager.onto id (manager.registry.changeJob id Job.searched) (manager.work id)
      (manager.past id)) := by
  have life := orderly.lives id
  rw [work] at life ⊢
  obtain ⟨job, registered, state, blank, notQueued, past⟩ := life.of_solving
  have same : job.SameStanding job.searched := .with_solver job _
  have solves := (orderly.solves id job registered).searched
  apply effect_of_work (touches_change_job registered Job.searched) same rfl rfl solves
  change Life _ _ (manager.registry.queue.count id) _ _
  rw [notQueued, past]
  exact .solving state (blank.of_same same)

/-- Whatever a worker is at, a job whose solver has not gone on lives as before. -/
theorem effect_of_change {change : Job → Job} (orderly : Orderly manager)
    (registered : manager.registry.job? id = some job) (same : job.SameStanding (change job))
    (stage : (change job).solver.stage = job.solver.stage) (solves : (change job).Solves) :
    Effect manager (manager.onto id (manager.registry.changeJob id change) (manager.work id)
      (manager.past id)) := by
  apply effect_of_work (touches_change_job registered change) same rfl rfl solves
  have life := orderly.lives id
  rw [registered] at life
  exact life.of_same same stage

theorem effect_of_note (orderly : Orderly manager) (registered : manager.registry.job? id = some job) :
    Effect manager (manager.onto id (manager.registry.recordBest id job.solver) (manager.work id)
      (manager.past id)) :=
  orderly.effect_of_change registered ⟨rfl, rfl, rfl, rfl, rfl, rfl⟩ rfl
    (orderly.solves id job registered)

theorem effect_of_ask_late (orderly : Orderly manager)
    (registered : manager.registry.job? id = some job) :
    Effect manager (manager.onto id (manager.registry.changeJob id Job.asked) (manager.work id)
      (manager.past id)) :=
  orderly.effect_of_change registered (.with_solver job _) rfl
    (orderly.solves id job registered).asked

theorem effect_of_watch (orderly : Orderly manager) (registered : manager.registry.job? id = some job)
    (clock : Clock) :
    Effect manager (manager.onto id (manager.registry.changeJob id (Job.watched clock))
      (manager.work id) (manager.past id)) :=
  orderly.effect_of_change registered (.with_solver job _) rfl
    ((orderly.solves id job registered).watched clock)

theorem effect_of_tell (orderly : Orderly manager) (registered : manager.registry.job? id = some job)
    (pause : Option Pause) :
    Effect manager (manager.onto id (manager.registry.changeJob id (Job.told pause)) (manager.work id)
      (manager.past id)) :=
  orderly.effect_of_change registered ⟨rfl, rfl, rfl, rfl, rfl, rfl⟩ rfl
    (orderly.solves id job registered)

/-- A worker that is done with the search goes on to a stage that its job has earned. -/
theorem effect_of_search_done {stage : WorkStage} (orderly : Orderly manager)
    (work : manager.work id = some .solving) (registered : manager.registry.job? id = some job)
    (earned : job.state = .running → job.Blank →
      Life manager.registry.sink.isPresent (some job) 0 (some stage) [.begun, .entered]) :
    Effect manager (manager.onto id manager.registry (some stage) (manager.past id)) := by
  have life := orderly.lives id
  rw [work, registered] at life
  obtain ⟨_, same, state, blank, notQueued, past⟩ := life.of_solving
  obtain rfl := Option.some.inj same
  apply effect_of_work (touches_nothing registered) (.refl job) rfl rfl
    (orderly.solves id job registered)
  rw [notQueued, past]
  exact earned state blank

theorem effect_of_deliver {result : SolveResult} {solution : Solution} {after : JobRegistry}
    (orderly : Orderly manager) (work : manager.work id = some (.built result solution))
    (done : manager.registry.deliver solution = .ok after) :
    Effect manager (manager.onto id after (some (.delivered result solution))
      (if manager.registry.sink.isPresent then .handed solution none :: manager.past id
        else manager.past id)) := by
  have life := orderly.lives id
  rw [work] at life
  obtain ⟨job, registered, state, blank, found, notQueued, past⟩ := life.of_built
  obtain rfl := deliver_ok done
  have touches : Touches id job job manager.registry { manager.registry with
      saved := manager.registry.saved ++ if manager.registry.sink.isPresent then [solution] else [] } :=
    ⟨registered, registered, fun _ _ => rfl, fun _ _ => rfl, rfl, rfl⟩
  refine .proceeds touches (.delivers state found) ?_ (orderly.solves id job registered)
    (if_pos rfl).symm rfl
  dsimp only
  rw [notQueued, past]
  exact .delivered state blank found

theorem effect_of_refuse {result : SolveResult} {solution : Solution} {message : String}
    (orderly : Orderly manager) (work : manager.work id = some (.built result solution))
    (refused : manager.registry.deliver solution = .error message) :
    Effect manager (manager.onto id manager.registry (some (.failing message))
      (.handed solution (some message) :: manager.past id)) := by
  have life := orderly.lives id
  rw [work] at life
  obtain ⟨job, registered, state, blank, found, notQueued, past⟩ := life.of_built
  have sunk := deliver_error refused
  refine .proceeds (touches_nothing registered) (.refuses sunk state found) ?_
    (orderly.solves id job registered) (if_pos rfl).symm (List.append_nil _).symm
  rw [notQueued, past]
  exact .failing state blank (.sink found sunk)

theorem effect_of_ending {changed : Job} {after : JobRegistry} {past : List JobEvent}
    (orderly : Orderly manager) (touches : Touches id job changed manager.registry after)
    (course : Course manager.registry.sink.isPresent job (manager.past id) changed past [])
    (life : Life manager.registry.sink.isPresent (some changed) (after.queue.count id) none past)
    (stage : changed.solver = job.solver) (config : changed.config = job.config)
    (running : job.state.isActive = true) (ended : changed.state.isActive = false)
    (active : after.active = Entries.erase job.term manager.registry.active)
    (saved : after.saved = manager.registry.saved) :
    Effect manager (manager.onto id after none past) := by
  have solves : changed.Solves := by
    have before := orderly.solves id job touches.registered
    unfold Job.Solves at before ⊢
    rw [stage, config]
    exact before
  refine .proceeds touches course life solves ?_ ?_
  · rw [running, ended]
    exact active
  · rw [saved, List.append_nil]

theorem effect_of_fail {message : String} (orderly : Orderly manager)
    (work : manager.work id = some (.failing message)) :
    Effect manager
      (manager.onto id (manager.registry.finish id .failed (some message)) none (manager.past id)) := by
  have life := orderly.lives id
  rw [work] at life
  obtain ⟨job, registered, state, blank, thwarted, notQueued⟩ := life.of_failing
  have running : job.state.isActive = true := by rw [state]; rfl
  apply orderly.effect_of_ending (touches_finish registered _ _) (.fails state) _ rfl rfl running rfl
    (active_finish registered (orderly.holder registered running) _ _) (saved_finish ..)
  rw [queue_finish, notQueued]
  exact .failed rfl blank.solution rfl (thwarted.of_same rfl rfl)

theorem effect_of_succeed {result : SolveResult} {solution : Solution} (orderly : Orderly manager)
    (work : manager.work id = some (.delivered result solution)) :
    Effect manager
      (manager.onto id (manager.registry.succeed id result solution) none (manager.past id)) := by
  have life := orderly.lives id
  rw [work] at life
  obtain ⟨job, registered, state, blank, found, notQueued, past⟩ := life.of_delivered
  have running : job.state.isActive = true := by rw [state]; rfl
  have solved := (touches_change_job registered (Job.solved result solution)).becomes
  have holds := orderly.holder registered running
  apply orderly.effect_of_ending (touches_succeed registered _ _) (.succeeds state) _ rfl rfl running
    (Life.end_state_ended result) (active_finish solved holds _ _) (saved_finish ..)
  have queue : (manager.registry.succeed id result solution).queue = manager.registry.queue :=
    queue_finish ..
  rw [queue, notQueued, past]
  exact .done rfl rfl rfl (found.of_same rfl rfl)

theorem effect_of_withdraw {Failure : Type} {after : JobRegistry} (orderly : Orderly manager)
    (waits : manager.registry.Waits id)
    (done : (cancel id : JobAction Failure Unit).run manager.registry = .ok () after) :
    Effect manager (manager.onto id after (manager.work id) (.withdrawn :: manager.past id)) := by
  have life := orderly.lives id
  obtain ⟨job, registered, state, blank, once, idle, past⟩ :=
    life.of_waiting (List.count_pos_iff.2 waits.2)
  rw [cancel_of_waiting waits] at done
  obtain ⟨-, rfl⟩ := EStateM.Result.ok.inj done
  have pending : job.state.isActive = true := by rw [state]; rfl
  have taken := (touches_take registered).becomes
  have touches := (touches_take registered).trans (touches_finish taken .cancelled none)
  rw [idle]
  apply orderly.effect_of_ending touches (.withdraws state) _ rfl rfl pending rfl
    (active_finish taken (orderly.holder registered pending) _ _) (saved_finish ..)
  have emptied : (manager.registry.take id).queue.count id = 0 := by
    change (manager.registry.queue.erase id).count id = 0
    rw [List.count_erase_self, once]
  rw [queue_finish, emptied, past]
  exact .withdrawn rfl blank.solution rfl

theorem effect_of_ask {Failure : Type} {after : JobRegistry} (orderly : Orderly manager)
    (passed : ¬ manager.registry.Waits id)
    (done : (cancel id : JobAction Failure Unit).run manager.registry = .ok () after) :
    Effect manager (manager.onto id after (manager.work id) (manager.past id)) := by
  cases registered : manager.registry.job? id with
  | none =>
      rw [cancel_of_unknown registered] at done
      cases done
  | some job =>
      cases active : job.state.isActive with
      | true =>
          rw [cancel_of_active registered passed active] at done
          obtain ⟨-, rfl⟩ := EStateM.Result.ok.inj done
          exact orderly.effect_of_ask_late registered
      | false =>
          rw [cancel_of_ended registered active] at done
          obtain ⟨-, rfl⟩ := EStateM.Result.ok.inj done
          apply effect_of_work (touches_nothing registered) (.refl job) rfl rfl
            (orderly.solves id job registered)
          have life := orderly.lives id
          rw [registered] at life
          exact life

theorem effect (orderly : Orderly manager) (step : Step manager next) : Effect manager next := by
  cases step with
  | reserve done => exact orderly.effect_of_reserve done
  | release starting done => exact orderly.effect_of_release starting done
  | enter reserved unused isNew done => exact effect_of_enter reserved unused isNew done
  | strand reserved unused isNew refused => exact effect_of_strand reserved unused isNew refused
  | take queued => exact orderly.effect_of_take queued
  | begin work => exact orderly.effect_of_begin work
  | search work => exact orderly.effect_of_search work
  | watch registered clock => exact orderly.effect_of_watch registered clock
  | note work registered => exact orderly.effect_of_note registered
  | solveFails work registered failed =>
      apply orderly.effect_of_search_done work registered
      intro state blank
      obtain ⟨phase, stage⟩ := Solver.failed_of_outcome failed
      exact .failing state blank (.search stage)
  | buildFails work registered ended undocumented =>
      apply orderly.effect_of_search_done work registered
      intro state blank
      exact .failing state blank (.document (Solver.terminated_of_outcome ended) undocumented)
  | build work registered ended resolved =>
      apply orderly.effect_of_search_done work registered
      intro state blank
      exact .built state blank ⟨Solver.terminated_of_outcome ended, resolved⟩
  | deliver work done => exact orderly.effect_of_deliver work done
  | refuse work refused => exact orderly.effect_of_refuse work refused
  | succeed work => exact orderly.effect_of_succeed work
  | fail work => exact orderly.effect_of_fail work
  | withdraw waits done => exact orderly.effect_of_withdraw waits done
  | ask passed done => exact orderly.effect_of_ask passed done
  | askLate registered => exact orderly.effect_of_ask_late registered
  | tell registered pause => exact orderly.effect_of_tell registered pause
  | sweep done =>
      rw [drop_stale_run] at done
      obtain ⟨-, rfl⟩ := EStateM.Result.ok.inj done
      exact .sweeps _
  | close => exact .aside rfl rfl rfl rfl (fun _ _ => Iff.rfl) orderly.reserved
  | advance seconds => exact .aside rfl rfl rfl rfl (fun _ _ => Iff.rfl) orderly.reserved
  | turn same => exact .aside rfl rfl same rfl (fun _ _ => Iff.rfl) orderly.reserved

end Orderly

end JobManager

end SchoolTimetable
