import SchoolTimetable.Proofs.Jobs.Answers
import SchoolTimetable.Proofs.Jobs.Performance
import SchoolTimetable.Proofs.Solution.Outcomes

/-!
The life cycle of jobs and what the sink gets to see of them. A job begins once and ends once, its solution is
handed to the sink at most once and before it ends, and it is stored exactly if the sink has not refused it.
-/

namespace SchoolTimetable

inductive JobState.LeadsTo : JobState → JobState → Prop
  | begins : LeadsTo .pending .running
  | withdraws : LeadsTo .pending .cancelled
  | succeeds : LeadsTo .running .succeeded
  | fails : LeadsTo .running .failed
  | stops : LeadsTo .running .cancelled

def JobEvent.isHanded : JobEvent → Bool
  | .handed .. => true
  | _ => false

/-- What can become of a job in one step, if there is one: how it stands before and after, and what had happened
to it by then. To be withdrawn is to be cancelled while it is pending. -/
structure Moves (present : Bool) (before after : Option Job) (past events : List JobEvent) : Prop where
  states : ∀ job changed, before = some job → after = some changed →
    changed.state = job.state ∨ job.state.LeadsTo changed.state
  settled : ∀ job changed, before = some job → after = some changed → job.state.isActive = false →
    changed.state = job.state ∧ changed.error = job.error ∧ changed.solution = job.solution
  enters : ∀ changed, before = none → after = some changed → changed.state = .pending ∧ past = []
  leaves : ∀ job, before = some job → after = none → job.state.isActive = false
  withdraws : events = .withdrawn :: past ↔ ∃ job changed, before = some job ∧ after = some changed ∧
    job.state = .pending ∧ changed.state = .cancelled
  begins : events = .begun :: past ↔ ∃ job changed, before = some job ∧ after = some changed ∧
    job.state = .pending ∧ changed.state = .running
  hands : ∀ solution refusal, events = .handed solution refusal :: past →
    ∃ job result, before = some job ∧ job.state = .running ∧ job.Finds result solution ∧
      solution.status ≠ .solving ∧ present = true
  history : events = past ∨ ∃ event, events = event :: past

namespace Course

variable {present : Bool} {job changed : Job} {past events : List JobEvent} {taken : List Solution}

theorem leads (course : Course present job past changed events taken) :
    changed.state = job.state ∨ job.state.LeadsTo changed.state := by
  cases course with
  | works same => exact .inl same.state
  | begins state => exact .inr (state ▸ .begins)
  | delivers | refuses => exact .inl rfl
  | withdraws state => exact .inr (state ▸ .withdraws)
  | fails state => exact .inr (state ▸ .fails)
  | succeeds state =>
      right
      rw [state]
      change JobState.LeadsTo .running (SolveResult.endState _)
      unfold SolveResult.endState
      split
      · exact .stops
      · exact .succeeds

theorem settled (course : Course present job past changed events taken)
    (ended : job.state.isActive = false) :
    changed.state = job.state ∧ changed.error = job.error ∧ changed.solution = job.solution := by
  cases course with
  | works same => exact ⟨same.state, same.error, same.solution⟩
  | delivers | refuses => exact ⟨rfl, rfl, rfl⟩
  | begins state | withdraws state | fails state | succeeds state =>
      rw [state] at ended
      cases ended

theorem withdraws_iff (course : Course present job past changed events taken) :
    events = .withdrawn :: past ↔ job.state = .pending ∧ changed.state = .cancelled := by
  cases course with
  | works same =>
      rw [same.state]
      cases job.state <;> simp
  | begins state => simp
  | delivers state found => cases present <;> simp [state]
  | refuses sunk state found => simp [state]
  | withdraws state => simp [state, Job.ended]
  | fails state => simp [state]
  | succeeds state => simp [state]

theorem begins_iff (course : Course present job past changed events taken) :
    events = .begun :: past ↔ job.state = .pending ∧ changed.state = .running := by
  cases course with
  | works same =>
      rw [same.state]
      cases job.state <;> simp
  | begins state => simp [state]
  | delivers state found => cases present <;> simp [state]
  | refuses sunk state found => simp [state]
  | withdraws state => simp [Job.ended]
  | fails state => simp [state]
  | succeeds state => simp [state]

theorem hands {solution : Solution} {refusal : Option String}
    (course : Course present job past changed events taken)
    (handed : events = .handed solution refusal :: past) :
    ∃ result, job.state = .running ∧ job.Finds result solution ∧ present = true := by
  cases course with
  | delivers state found =>
      cases present with
      | true =>
          obtain ⟨same, -⟩ := List.cons.inj handed
          obtain ⟨rfl, -⟩ := JobEvent.handed.inj same
          exact ⟨_, state, found, rfl⟩
      | false => simp at handed
  | refuses sunk state found =>
      obtain ⟨same, -⟩ := List.cons.inj handed
      obtain ⟨rfl, -⟩ := JobEvent.handed.inj same
      exact ⟨_, state, found, sunk⟩
  | _ => simp at handed

theorem history (course : Course present job past changed events taken) :
    events = past ∨ ∃ event, events = event :: past := by
  cases course with
  | works | fails | succeeds => exact .inl rfl
  | begins | refuses | withdraws => exact .inr ⟨_, rfl⟩
  | delivers =>
      cases present with
      | true => exact .inr ⟨_, rfl⟩
      | false => exact .inl rfl

theorem taken_eq (course : Course present job past changed events taken) :
    (∀ solution, events = .handed solution none :: past → taken = [solution]) ∧
      ((∀ solution, events ≠ .handed solution none :: past) → taken = []) := by
  cases course with
  | @delivers result solution state found =>
      cases present with
      | true =>
          refine ⟨?_, fun unhanded => absurd rfl (unhanded solution)⟩
          intro other handed
          obtain ⟨same, -⟩ := List.cons.inj handed
          obtain ⟨rfl, -⟩ := JobEvent.handed.inj same
          rfl
      | false => simp
  | _ => simp

theorem moves (course : Course present job past changed events taken) (solves : job.Solves) :
    Moves present (some job) (some changed) past events where
  states := by
    rintro _ _ ⟨⟩ ⟨⟩
    exact course.leads
  settled := by
    rintro _ _ ⟨⟩ ⟨⟩
    exact course.settled
  enters := fun _ impossible => (nomatch impossible)
  leaves := fun _ _ impossible => (nomatch impossible)
  withdraws := by
    rw [course.withdraws_iff]
    simp
  begins := by
    rw [course.begins_iff]
    simp
  hands := by
    intro solution refusal handed
    obtain ⟨result, running, found, sunk⟩ := course.hands handed
    exact ⟨job, result, rfl, running, found, solves.status_of_finds found, sunk⟩
  history := course.history

end Course

namespace Moves

variable {present : Bool} {past : List JobEvent}

theorem still (before : Option Job) : Moves present before before past past where
  states := by
    intro job changed known same
    obtain rfl := Option.some.inj (known.symm.trans same)
    exact .inl rfl
  settled := by
    intro job changed known same _
    obtain rfl := Option.some.inj (known.symm.trans same)
    exact ⟨rfl, rfl, rfl⟩
  enters := by
    intro changed unknown known
    rw [unknown] at known
    cases known
  leaves := by
    intro job known unknown
    rw [known] at unknown
    cases unknown
  withdraws := by
    cases before with
    | none => simp
    | some job => cases state : job.state <;> simp [state]
  begins := by
    cases before with
    | none => simp
    | some job => cases state : job.state <;> simp [state]
  hands := by
    intro solution refusal handed
    simp at handed
  history := .inl rfl

theorem entered {job : Job} (isNew : job.IsNew) (unused : past = []) :
    Moves present none (some job) past (.entered :: past) where
  states := fun _ _ impossible => (nomatch impossible)
  settled := fun _ _ impossible => (nomatch impossible)
  enters := by
    rintro _ - ⟨⟩
    exact ⟨isNew.pending, unused⟩
  leaves := fun _ impossible => (nomatch impossible)
  withdraws := by simp
  begins := by simp
  hands := by
    intro solution refusal handed
    simp at handed
  history := .inr ⟨_, rfl⟩

theorem dropped {job : Job} (ended : job.state.isActive = false) :
    Moves present (some job) none past past where
  states := fun _ _ _ impossible => (nomatch impossible)
  settled := fun _ _ _ impossible => (nomatch impossible)
  enters := fun _ impossible => (nomatch impossible)
  leaves := by
    rintro _ ⟨⟩ -
    exact ended
  withdraws := by simp
  begins := by simp
  hands := by
    intro solution refusal handed
    simp at handed
  history := .inl rfl

end Moves

/-- What is stored of a job and how it ended, by what its search found and what happened to it. -/
structure Stores (present : Bool) (job : Job) (past : List JobEvent) : Prop where
  stored : job.solution.isSome ↔ job.state = .succeeded ∨ job.state = .cancelled ∧ .begun ∈ past
  solution : ∀ solution, job.solution = some solution ↔
    job.state.isActive = false ∧ .begun ∈ past ∧
      ∃ result, job.Finds result solution ∧ (present = true → .handed solution none ∈ past)
  cancelled : job.state.isActive = false →
    (job.state = .cancelled ↔ .withdrawn ∈ past ∨
      ∃ result solution, job.Finds result solution ∧ result.isCancelled = true ∧
        (present = true → .handed solution none ∈ past))

section Stored

variable {present : Bool} {job : Job} {past : List JobEvent} {result : SolveResult}
  {solution : Solution} {message : String}

theorem Job.Thwarted.undelivered (thwarted : job.Thwarted present message past)
    (found : job.Finds result solution) : ¬ (present = true → .handed solution none ∈ past) := by
  cases thwarted with
  | search failed =>
      have ended := found.ended
      rw [failed] at ended
      cases ended
  | document ended undocumented =>
      obtain rfl := SolveStage.terminated.inj (ended.symm.trans found.ended)
      have resolved := found.resolved
      rw [undocumented] at resolved
      cases resolved
  | sink other sunk =>
      intro delivered
      simpa using delivered sunk

theorem Job.Thwarted.not_withdrawn (thwarted : job.Thwarted present message past) :
    .withdrawn ∉ past := by
  cases thwarted <;> simp

theorem delivered_of_delivery (present : Bool) (solution : Solution) :
    (present = true → .handed solution none ∈ delivery present solution) ∧
      .begun ∈ delivery present solution ∧ .withdrawn ∉ delivery present solution := by
  cases present <;> simp [delivery]

theorem stores_of_active (active : job.state.isActive = true) (nothing : job.solution = none) :
    Stores present job past where
  stored := by
    rw [nothing]
    rcases (JobState.is_active_iff job.state).1 active with state | state <;> simp [state]
  solution := by
    intro solution
    rw [nothing, active]
    simp
  cancelled := by
    intro ended
    rw [active] at ended
    cases ended

theorem stores_of_failed {past : List JobEvent} (state : job.state = .failed)
    (nothing : job.solution = none) (thwarted : job.Thwarted present message past) :
    Stores present job past where
  stored := by simp [state, nothing]
  solution := by
    intro solution
    rw [nothing]
    constructor
    · exact fun impossible => (nomatch impossible)
    · rintro ⟨-, -, result, found, delivered⟩
      exact absurd delivered (thwarted.undelivered found)
  cancelled := by
    intro _
    rw [state]
    constructor
    · exact fun impossible => (nomatch impossible)
    · rintro (withdrawn | ⟨result, solution, found, -, delivered⟩)
      · exact absurd withdrawn thwarted.not_withdrawn
      · exact absurd delivered (thwarted.undelivered found)

theorem stores_of_done (state : job.state = result.endState) (stored : job.solution = some solution)
    (found : job.Finds result solution) : Stores present job (delivery present solution) := by
  obtain ⟨delivered, begun, notWithdrawn⟩ := delivered_of_delivery present solution
  refine ⟨?_, ?_, ?_⟩
  · rw [stored, state]
    unfold SolveResult.endState
    split <;> simp [begun]
  · intro other
    rw [stored, state]
    constructor
    · rintro ⟨⟩
      exact ⟨Life.end_state_ended result, begun, result, found, delivered⟩
    · rintro ⟨-, -, again, foundAgain, -⟩
      -- A search comes to one result, and a result has one document.
      rw [(found.unique foundAgain).2]
  · intro _
    rw [state]
    unfold SolveResult.endState
    constructor
    · intro stopped
      refine .inr ⟨result, solution, found, ?_, delivered⟩
      by_contra notCancelled
      rw [if_neg notCancelled] at stopped
      cases stopped
    · rintro (withdrawn | ⟨again, other, foundAgain, stopped, -⟩)
      · exact absurd withdrawn notWithdrawn
      · rw [(found.unique foundAgain).1] at stopped
        exact if_pos stopped

theorem Life.stores {registered : Job} {count : Nat} {work : Option WorkStage}
    (life : Life present (some registered) count work past) : Stores present registered past := by
  cases life with
  | waiting state blank | stranded state blank | taken state blank | solving state blank
  | built state blank | delivered state blank | failing state blank =>
      exact stores_of_active (by rw [state]; rfl) blank.solution
  | withdrawn state nothing finished => exact ⟨by simp [state, nothing], by simp [nothing], by simp [state]⟩
  | failed state nothing finished thwarted => exact stores_of_failed state nothing thwarted
  | done state stored finished found => exact stores_of_done state stored found

end Stored

theorem History.handed_once {past : List JobEvent} (history : History past) :
    (past.filter JobEvent.isHanded).length ≤ 1 := by
  cases history with
  | handed solution refusal => exact Nat.le_refl 1
  | entered | withdrawn | begun => exact Nat.zero_le 1

theorem History.withdrawn_unhanded {past : List JobEvent} (history : History past)
    (withdrawn : .withdrawn ∈ past) (solution : Solution) (refusal : Option String) :
    .handed solution refusal ∉ past := by
  cases history with
  | handed => simp at withdrawn
  | entered | withdrawn | begun => simp

namespace JobManager

open JobRegistry

variable {manager next : JobManager}

structure MovesOn (manager next : JobManager) : Prop where
  jobs : ∀ id, Moves manager.registry.sink.isPresent (manager.registry.job? id) (next.registry.job? id)
    (manager.past id) (next.past id)
  nothingTaken : (∀ id solution, next.past id ≠ .handed solution none :: manager.past id) →
    next.registry.saved = manager.registry.saved
  taken : ∀ id solution, next.past id = .handed solution none :: manager.past id →
    next.registry.saved = manager.registry.saved ++ [solution]

/-- The life cycle of jobs, and what the sink and those who ask for solutions get to see of it. -/
structure LifeCycle (manager : JobManager) : Prop where
  movesOn : ∀ next, Step manager next → manager.MovesOn next
  settled : ∀ next, Performs manager next → ∀ id job changed, manager.registry.job? id = some job →
    job.state.isActive = false → next.registry.job? id = some changed →
    changed.state = job.state ∧ changed.error = job.error ∧ changed.solution = job.solution
  handedOnce : ∀ id, ((manager.past id).filter JobEvent.isHanded).length ≤ 1
  withdrawnUnhanded : ∀ id solution refusal, .withdrawn ∈ manager.past id →
    .handed solution refusal ∉ manager.past id
  stores : ∀ id job, manager.registry.job? id = some job →
    Stores manager.registry.sink.isPresent job (manager.past id)
  answers : ∀ id job, manager.registry.job? id = some job → Answers manager.registry id job

namespace Orderly

theorem history (orderly : Orderly manager) (id : String) :
    manager.past id = [] ∨ History (manager.past id) := by
  by_cases unused : manager.past id = []
  · exact .inl unused
  · exact .inr ((orderly.lives id).history unused)

theorem moves_of_effect (orderly : Orderly manager) (effect : Effect manager next) (id : String) :
    Moves manager.registry.sink.isPresent (manager.registry.job? id) (next.registry.job? id)
      (manager.past id) (next.past id) := by
  cases effect with
  | @aside registry starting jobs queue present saved table reserved =>
      have same : registry.job? id = manager.registry.job? id := by
        unfold JobRegistry.job?
        rw [jobs]
      dsimp only
      rw [same]
      exact .still _
  | @enters own job after starting unused isNew jobs active queued present saved =>
      unfold onto
      dsimp only
      rw [job_of_put jobs]
      by_cases same : id = own
      · subst same
        have life := orderly.lives id
        rw [unused] at life
        rw [if_pos rfl, life.of_unused.1, Function.update_self]
        exact .entered isNew unused
      · rw [if_neg same, Function.update_of_ne same]
        exact .still _
  -- What becomes of the job is told by its course, and all others are left alone.
  | @proceeds own job changed after work events taken touches course life solves active saved =>
      unfold onto
      dsimp only
      by_cases same : id = own
      · subst same
        rw [touches.registered, touches.becomes, Function.update_self]
        exact course.moves (orderly.solves id job touches.registered)
      · rw [touches.others id same, Function.update_of_ne same]
        exact .still _
  | sweeps now =>
      dsimp only
      rw [job_without_stale orderly.distinct]
      cases registered : manager.registry.job? id with
      | none => exact .still none
      | some job =>
          by_cases stale : manager.registry.isStale now job = true
          · rw [Option.filter_some_neg (by simpa using stale)]
            exact .dropped (orderly.ended_of_stale registered stale)
          · rw [Option.filter_some_pos (by simpa using stale)]
            exact .still (some job)

theorem moves_on (orderly : Orderly manager) (step : Step manager next) : MovesOn manager next := by
  have effect := orderly.effect step
  have jobs := orderly.moves_of_effect effect
  cases effect with
  | aside _ _ _ saved _ _ => exact ⟨jobs, fun _ => saved, by simp⟩
  | @enters own job after starting unused isNew _ active queued present saved =>
      refine ⟨jobs, fun _ => saved, ?_⟩
      intro id solution handed
      unfold onto at handed
      by_cases same : id = own
      · subst same
        simp at handed
      · simp [Function.update_of_ne same] at handed
  | @proceeds own job changed after work events taken touches course life solves active saved =>
      obtain ⟨takes, takesNothing⟩ := course.taken_eq
      have ownEvents : (manager.onto own after work events).past own = events := Function.update_self ..
      refine ⟨jobs, ?_, ?_⟩
      · intro unhanded
        change after.saved = manager.registry.saved
        rw [saved, takesNothing (ownEvents ▸ unhanded own), List.append_nil]
      · intro id solution handed
        change after.saved = manager.registry.saved ++ [solution]
        by_cases same : id = own
        · subst same
          rw [saved, takes solution (ownEvents.symm.trans handed)]
        · unfold onto at handed
          simp [Function.update_of_ne same] at handed
  | sweeps now => exact ⟨jobs, fun _ => rfl, by simp⟩

section Later

variable {id : String} {job changed : Job}

theorem entered_of_registered (orderly : Orderly manager)
    (registered : manager.registry.job? id = some job) : manager.past id ≠ [] := by
  intro unused
  have life := orderly.lives id
  rw [unused] at life
  rw [life.of_unused.1] at registered
  cases registered

theorem still_entered (orderly : Orderly manager) (performs : Performs manager next)
    (entered : manager.past id ≠ []) : next.past id ≠ [] := by
  induction performs with
  | refl => exact entered
  | tail performs step ih =>
      have later := orderly.performs performs
      rcases ((later.moves_on step).jobs id).history with same | ⟨event, longer⟩
      · exact same ▸ ih
      · rw [longer]
        exact List.cons_ne_nil _ _

/-- A job that has come to its end is never changed again, however long it is kept. -/
theorem settled_for_good (orderly : Orderly manager) (performs : Performs manager next)
    (registered : manager.registry.job? id = some job) (ended : job.state.isActive = false)
    (known : next.registry.job? id = some changed) :
    changed.state = job.state ∧ changed.error = job.error ∧ changed.solution = job.solution := by
  induction performs generalizing changed with
  | refl =>
      obtain rfl := Option.some.inj (registered.symm.trans known)
      exact ⟨rfl, rfl, rfl⟩
  | @tail middle next performs step ih =>
      have moves := ((orderly.performs performs).moves_on step).jobs id
      cases before : middle.registry.job? id with
      | none =>
          -- Once it is dropped it does not come back, as its id has been used.
          have used := orderly.still_entered performs (orderly.entered_of_registered registered)
          exact absurd (moves.enters changed before known).2 used
      | some between =>
          obtain ⟨state, error, solution⟩ := ih before
          have stillEnded : between.state.isActive = false := state ▸ ended
          obtain ⟨sameState, sameError, sameSolution⟩ :=
            moves.settled between changed before known stillEnded
          exact ⟨sameState.trans state, sameError.trans error, sameSolution.trans solution⟩

end Later

end Orderly

/-- Each job keeps to its life cycle, whatever callers and workers do and whether or not the sink fails. -/
theorem jobs_keep_to_their_life_cycle (reached : manager.Reached) : manager.LifeCycle := by
  have orderly := reached.orderly
  constructor
  · exact fun _ => orderly.moves_on
  · intro next performs id job changed
    exact orderly.settled_for_good performs
  · intro id
    rcases orderly.history id with unused | history
    · rw [unused]
      exact Nat.zero_le 1
    · exact history.handed_once
  · intro id solution refusal withdrawn
    rcases orderly.history id with unused | history
    · rw [unused] at withdrawn
      cases withdrawn
    · exact history.withdrawn_unhanded withdrawn solution refusal
  · intro id job registered
    have life := orderly.lives id
    rw [registered] at life
    exact life.stores
  · intro id job registered
    exact answers_of_solves registered (orderly.solves id job registered)

/-- A job is solved and the sink takes its solution. -/
theorem morning_is_stored : ∃ manager : JobManager, manager.Reached ∧
    (∃ job solution, manager.registry.job? "a" = some job ∧ job.state.isActive = false ∧
      job.solution = some solution ∧ manager.past "a" = [.handed solution none, .begun, .entered] ∧
      manager.registry.saved = [solution]) ∧
    manager.LifeCycle := by
  obtain ⟨scores, result, solution, ended, run, terminated, resolved⟩ :=
    MusicMorning.comes_to_document Twister.inexhaustible (morningJob MusicMorning.config).solver.clock _
  have resourced : MusicMorning.config.allowUnresourced = false := rfl
  obtain ⟨searched, becomes⟩ := morning_runs resourced run
  -- The document is built and the sink takes it.
  let delivered := { (morningSolved MusicMorning.config ended).registry with saved := [solution] }
  have outcome : ended.outcome? = some (.ok result) := by simp only [Solver.outcome?, terminated]
  have delivery : (morningSolved MusicMorning.config ended).registry.deliver solution = .ok delivered := rfl
  have succeeded := performs_success (onto_work ..) becomes outcome resolved delivery
  have reached : Reached _ :=
    ⟨1, MusicMorning.config, 1800, .taking, openHouse, open_house_made, searched.trans succeeded⟩
  have kept : delivered.job? "a" = some _ := becomes
  have stored := (touches_succeed kept result solution).becomes
  refine ⟨_, reached, ⟨_, solution, stored, ?_, rfl, ?_, ?_⟩, jobs_keep_to_their_life_cycle reached⟩
  · exact Life.end_state_ended result
  · exact onto_past ..
  · exact saved_finish ..

-- The price is a nine with 4299 zeros, by powers that are small enough to be evaluated.
def heavySettings : Json :=
  .obj [("termination", .obj [("time_limit_seconds", .null), ("unimproved_move_limit", .null),
      ("move_limit", .int 3)]),
    ("acceptor", .obj [("type", .str "late_acceptance"), ("late_acceptance_size", .int 3)]),
    ("weights", .obj [("teacher_gap", .int (9 * 10 ^ 19 * (10 ^ 214) ^ 20))])]

/-- Settings under which two idle periods of a teacher cost more than can be written. -/
def heavy : Config :=
  { MusicMorning.config with weights := { Weights.standard with gap := 9 * 10 ^ 19 * (10 ^ 214) ^ 20 } }

theorem heavy_read : Config.read heavySettings = .ok heavy := rfl

theorem heavy_opening : (MusicMorning.timetable.firstFit heavy.weights).map (·.placement) = MusicMorning.opening ∧
    ¬ Writable heavy.weights (MusicMorning.timetable.lessonsWith MusicMorning.opening) := by
  unfold Timetable.firstFit
  rw [MusicMorning.construction_slots, MusicMorning.construction_order]
  decide +kernel

/-- A job runs and has published a best, but whoever asks for its solution does not get one, as the score of a
violation is too long to be written. -/
theorem heavy_gap_is_not_answered : ∃ (manager : JobManager) (job : Job),
    Config.read heavySettings = .ok heavy ∧ manager.Reached ∧ job.config = heavy ∧
    manager.registry.job? "a" = some job ∧ job.state = .running ∧ job.solver.published ≠ [] ∧
    ∀ Failure : Type, (JobRegistry.result "a" : JobAction Failure Solution).run manager.registry =
      .error (.noDocument .overlongScore) manager.registry := by
  let start := (morningJob heavy).solver
  have begun : Solver.Run start [] start := .start
  have firstFit : heavy.construction = .firstFit := rfl
  have working : MusicMorning.timetable.isFinal = false := rfl
  obtain ⟨director, done, placed⟩ :=
    Solver.construct_is_first_fit PlacementModel.placer firstFit working (List.cons_ne_nil _ _)
  have assigned : director.timetable.snapshot = MusicMorning.opening := by
    rw [placed]
    exact heavy_opening.1
  have published : start.advance.published = [⟨director.score, MusicMorning.opening, 0⟩] := by
    rw [← assigned]
    exact (Solver.advance_of_idle rfl done).2
  have resourced : heavy.allowUnresourced = false := rfl
  obtain ⟨searched, becomes⟩ := morning_runs resourced begun.advance
  have reached : Reached _ := ⟨1, MusicMorning.config, 1800, .taking, openHouse, open_house_made, searched⟩
  have some : start.advance.published ≠ [] := by
    rw [published]
    exact List.cons_ne_nil _ _
  refine ⟨_, _, heavy_read, reached, rfl, becomes, rfl, some, fun Failure => ?_⟩
  apply result_overlong becomes (reached.orderly.solves "a" _ becomes) rfl rfl some
  rintro best ⟨latest, writable⟩
  have sameBase : start.advance.base = MusicMorning.timetable := begun.advance.accounts.sameBase
  dsimp only at latest writable
  rw [published] at latest
  obtain rfl := Option.some.inj latest
  rw [sameBase] at writable
  exact heavy_opening.2 writable

end JobManager

end SchoolTimetable
