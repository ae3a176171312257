import SchoolTimetable.Proofs.Jobs.LifeCycle
import SchoolTimetable.Proofs.Search.Alike

/-!
A request to shut down, section by section, while callers and workers go on. It lists the active jobs, cancels
them in turn and sends the workers home. By its turn a listed job may have come to its end and been dropped:
then the request is refused, the rest of its list is left alone and the workers stay.
-/

namespace SchoolTimetable

inductive ClosingStage where
  | called
  | cancelling (left : List String)
  /-- The guarded section of a cancellation is over, and the solver of the job is not asked yet. -/
  | asking (id : String) (left : List String)
  | refused (fault : JobFault Empty) (left : List String)
  | finished

namespace ClosingStage

def left : ClosingStage → List String
  | .called | .finished => []
  | .cancelling left | .refused _ left => left
  | .asking id left => id :: left

def isOver : ClosingStage → Bool
  | .refused _ _ | .finished => true
  | .called | .cancelling _ | .asking _ _ => false

def turnsLeft : ClosingStage → Nat
  | .called | .refused _ _ | .finished => 0
  | .cancelling left => 2 * left.length + 1
  | .asking _ left => 2 * left.length + 2

end ClosingStage

structure Closing where
  manager : JobManager
  /-- The jobs that were active when the request took its list. -/
  listed : List String
  stage : ClosingStage
  /-- How many turns the request has had. -/
  turns : Nat

namespace Closing

open JobRegistry

def called (manager : JobManager) : Closing := ⟨manager, [], .called, 0⟩

def onward (closing : Closing) (manager : JobManager) (stage : ClosingStage) : Closing :=
  { closing with manager := manager, stage := stage, turns := closing.turns + 1 }

def listing (closing : Closing) : Closing :=
  { closing with listed := closing.manager.registry.activeIds }

inductive Turn (closing : Closing) : Closing → Prop
  | list (next : closing.stage = .called) :
      Turn closing (closing.listing.onward closing.manager
        (.cancelling closing.manager.registry.activeIds))
  | withdraw {id : String} {left : List String} {after : JobRegistry}
      (next : closing.stage = .cancelling (id :: left)) (waits : closing.manager.registry.Waits id)
      (done : (cancel id : JobAction Empty Unit).run closing.manager.registry = .ok () after) :
      Turn closing (closing.onward (closing.manager.onto id after (closing.manager.work id)
        (.withdrawn :: closing.manager.past id)) (.cancelling left))
  | pass {id : String} {left : List String} {job : Job}
      (next : closing.stage = .cancelling (id :: left))
      (registered : closing.manager.registry.job? id = some job) (ended : job.state.isActive = false) :
      Turn closing (closing.onward closing.manager (.cancelling left))
  | insist {id : String} {left : List String} {job : Job}
      (next : closing.stage = .cancelling (id :: left))
      (registered : closing.manager.registry.job? id = some job)
      (passed : ¬ closing.manager.registry.Waits id) (active : job.state.isActive = true) :
      Turn closing (closing.onward closing.manager (.asking id left))
  /-- The solver is asked whatever has become of its job by then. -/
  | ask {id : String} {left : List String} (next : closing.stage = .asking id left) :
      Turn closing (closing.onward (closing.manager.onto id
        (closing.manager.registry.changeJob id Job.asked) (closing.manager.work id)
        (closing.manager.past id)) (.cancelling left))
  | refuse {id : String} {left : List String} {fault : JobFault Empty} {after : JobRegistry}
      (next : closing.stage = .cancelling (id :: left))
      (refused : (cancel id : JobAction Empty Unit).run closing.manager.registry =
        .error fault after) :
      Turn closing (closing.onward { closing.manager with registry := after }
        (.refused fault (id :: left)))
  | close (next : closing.stage = .cancelling []) :
      Turn closing (closing.onward
        { closing.manager with registry := closing.manager.registry.close } .finished)

inductive Step (closing : Closing) : Closing → Prop
  | turn {next : Closing} (turn : Turn closing next) : Step closing next
  | aside {manager : JobManager} (step : JobManager.Step closing.manager manager) :
      Step closing { closing with manager := manager }

abbrev Performs : Closing → Closing → Prop := Relation.ReflTransGen Step

end Closing

namespace JobRegistry

variable {registry before after : JobRegistry} {id : String} {job changed : Job}

/-- A job that is not active, or whose solver has been asked to stop. One that was dropped had ended. -/
def Stopped (registry : JobRegistry) (id : String) : Prop :=
  ∀ job, registry.job? id = some job → job.state.isActive = false ∨ job.solver.cancelled = true

structure KeepsOrders (before after : JobRegistry) : Prop where
  closed : before.closed = true → after.closed = true
  asked : ∀ id job changed, before.job? id = some job → after.job? id = some changed →
    job.solver.cancelled = true → changed.solver.cancelled = true

theorem keeps_of_same_jobs (jobs : after.jobs = before.jobs) (closed : after.closed = before.closed) :
    KeepsOrders before after where
  closed := fun sentHome => closed.trans sentHome
  asked := by
    intro id job changed known later
    unfold job? at known later
    rw [jobs, known] at later
    obtain rfl := Option.some.inj later
    exact fun asked => asked

theorem keeps_of_put (unknown : before.job? id = none) (jobs : after.jobs = Entries.put id job before.jobs)
    (closed : after.closed = before.closed) : KeepsOrders before after where
  closed := fun sentHome => closed.trans sentHome
  asked := by
    intro other known changed registered later
    have different : other ≠ id := by
      rintro rfl
      rw [unknown] at registered
      cases registered
    rw [job_of_put jobs, if_neg different, registered] at later
    obtain rfl := Option.some.inj later
    exact fun asked => asked

theorem keeps_of_change (change : Job → Job)
    (keeps : ∀ job : Job, job.solver.cancelled = true → (change job).solver.cancelled = true) :
    KeepsOrders registry (registry.changeJob id change) where
  closed := fun sentHome => sentHome
  asked := by
    intro other job changed registered later asked
    rw [job_change_job, registered] at later
    split at later
    · obtain rfl := Option.some.inj later
      exact keeps job asked
    · obtain rfl := Option.some.inj later
      exact asked

theorem Touches.keeps_orders (touches : Touches id job changed before after)
    (closed : after.closed = before.closed) (solver : changed.solver = job.solver) :
    KeepsOrders before after where
  closed := fun sentHome => closed.trans sentHome
  asked := by
    intro other known later registered becomes asked
    by_cases own : other = id
    · subst own
      obtain rfl := Option.some.inj (touches.registered.symm.trans registered)
      obtain rfl := Option.some.inj (touches.becomes.symm.trans becomes)
      rw [solver]
      exact asked
    · rw [touches.others other own, registered] at becomes
      obtain rfl := Option.some.inj becomes
      exact asked

theorem closed_finish (id : String) (state : JobState) (error : Option String)
    (registry : JobRegistry) : (registry.finish id state error).closed = registry.closed := by
  unfold finish
  split
  · rfl
  · dsimp only
    split <;> rfl

end JobRegistry

namespace JobManager

open JobRegistry

variable {manager next : JobManager} {id : String}

theorem Orderly.keeps_orders (orderly : Orderly manager) (step : Step manager next) :
    KeepsOrders manager.registry next.registry := by
  have nothing : KeepsOrders manager.registry manager.registry := keeps_of_same_jobs rfl rfl
  cases step with
  | @reserve Failure term after done =>
      cases holder : Entries.get? term manager.registry.active with
      | some job =>
          rw [reserve_of_taken holder] at done
          cases done
      | none =>
          rw [reserve_of_free holder] at done
          obtain ⟨-, rfl⟩ := EStateM.Result.ok.inj done
          exact keeps_of_same_jobs rfl rfl
  | release reserved done =>
      obtain ⟨-, rfl⟩ := EStateM.Result.ok.inj done
      exact keeps_of_same_jobs rfl rfl
  | @enter Failure id job after reserved unused isNew done =>
      have unknown : manager.registry.job? id = none := (unused ▸ orderly.lives id).of_unused.1
      cases closed : manager.registry.closed with
      | true =>
          rw [enter_of_closed closed] at done
          cases done
      | false =>
          rw [enter_of_open closed] at done
          obtain ⟨-, rfl⟩ := EStateM.Result.ok.inj done
          exact keeps_of_put unknown rfl rfl
  | @strand Failure id job after reserved unused isNew refused =>
      have unknown : manager.registry.job? id = none := (unused ▸ orderly.lives id).of_unused.1
      cases closed : manager.registry.closed with
      | true =>
          rw [enter_of_closed closed] at refused
          obtain ⟨-, rfl⟩ := EStateM.Result.error.inj refused
          exact keeps_of_put unknown rfl rfl
      | false =>
          rw [enter_of_open closed] at refused
          cases refused
  | take queued => exact keeps_of_same_jobs rfl rfl
  | begin work => exact keeps_of_change _ fun _ asked => asked
  | search work =>
      apply keeps_of_change
      intro job asked
      exact (Solver.advance_keeps_settings job.solver).cancelled.trans asked
  | watch registered clock => exact keeps_of_change _ fun _ asked => asked
  | @note id job work registered =>
      -- What is noted is the solver that the job has.
      have touches := touches_change_job registered fun known : Job =>
        { known with solver := job.solver, best := job.solver.bestScore? }
      exact touches.keeps_orders rfl rfl
  | solveFails work registered failed => exact nothing
  | buildFails work registered ended undocumented => exact nothing
  | build work registered ended resolved => exact nothing
  | deliver work done =>
      obtain rfl := deliver_ok done
      exact keeps_of_same_jobs rfl rfl
  | refuse work refused => exact nothing
  | @succeed id result solution work =>
      obtain ⟨job, registered, -⟩ := (work ▸ orderly.lives id).of_delivered
      exact (touches_succeed registered result solution).keeps_orders (closed_finish ..) rfl
  | @fail id message work =>
      obtain ⟨job, registered, -⟩ := (work ▸ orderly.lives id).of_failing
      exact (touches_finish registered .failed (some message)).keeps_orders (closed_finish ..) rfl
  | @withdraw Failure id after waits done =>
      rw [cancel_of_waiting waits] at done
      obtain ⟨-, rfl⟩ := EStateM.Result.ok.inj done
      obtain ⟨⟨job, registered, -⟩, -⟩ := waits
      have touches := (touches_take registered).trans
        (touches_finish (touches_take registered).becomes .cancelled none)
      exact touches.keeps_orders (closed_finish ..) rfl
  | @ask Failure id after passed done =>
      cases registered : manager.registry.job? id with
      | none =>
          rw [cancel_of_unknown registered] at done
          cases done
      | some job =>
          cases active : job.state.isActive with
          | true =>
              rw [cancel_of_active registered passed active] at done
              obtain ⟨-, rfl⟩ := EStateM.Result.ok.inj done
              exact keeps_of_change _ fun _ _ => rfl
          | false =>
              rw [cancel_of_ended registered active] at done
              obtain ⟨-, rfl⟩ := EStateM.Result.ok.inj done
              exact nothing
  | askLate registered => exact keeps_of_change _ fun _ _ => rfl
  | tell registered pause => exact keeps_of_change _ fun _ asked => asked
  | sweep done =>
      rw [drop_stale_run] at done
      obtain ⟨-, rfl⟩ := EStateM.Result.ok.inj done
      refine ⟨fun sentHome => sentHome, ?_⟩
      intro id job changed registered later asked
      rw [job_without_stale orderly.distinct] at later
      have same := (Option.eq_some_of_filter_eq_some later).symm.trans registered
      obtain rfl := Option.some.inj same
      exact asked
  | close => exact ⟨fun _ => rfl, nothing.asked⟩
  | advance seconds => exact keeps_of_same_jobs rfl rfl
  | turn same => exact keeps_of_same_jobs rfl rfl

theorem Orderly.stays_unknown (orderly : Orderly manager) (step : Step manager next)
    (used : manager.past id ≠ []) (unknown : manager.registry.job? id = none) :
    next.registry.job? id = none := by
  cases known : next.registry.job? id with
  | none => rfl
  | some job =>
      have moves := (orderly.moves_on step).jobs id
      exact absurd (moves.enters job unknown known).2 used

theorem Orderly.stays_stopped (orderly : Orderly manager) (step : Step manager next)
    (used : manager.past id ≠ []) (stopped : manager.registry.Stopped id) :
    next.registry.Stopped id := by
  intro changed known
  cases registered : manager.registry.job? id with
  | none =>
      rw [orderly.stays_unknown step used registered] at known
      cases known
  | some job =>
      rcases stopped job registered with ended | asked
      · have settled := orderly.settled_for_good (.single step) registered ended known
        rw [settled.1]
        exact .inl ended
      · exact .inr ((orderly.keeps_orders step).asked id job changed registered known asked)

end JobManager

namespace Closing

open JobRegistry

variable {closing next : Closing} {manager : JobManager} {id : String} {left : List String}

/-- A cancellation is refused only of a job that nobody knows, and changes nothing then. -/
theorem unknown_of_cancel_refused {registry after : JobRegistry} {fault : JobFault Empty}
    (refused : (cancel id : JobAction Empty Unit).run registry = .error fault after) :
    registry.job? id = none ∧ fault = .notFound id ∧ after = registry := by
  cases registered : registry.job? id with
  | some job =>
      obtain ⟨after, done⟩ : ∃ after, (cancel id : JobAction Empty Unit).run registry = .ok () after :=
        cancel_of_registered registered
      rw [done] at refused
      cases refused
  | none =>
      rw [cancel_of_unknown registered] at refused
      obtain ⟨rfl, rfl⟩ := EStateM.Result.error.inj refused
      exact ⟨rfl, rfl, rfl⟩

theorem manager_of_turn (turn : Turn closing next) :
    next.manager = closing.manager ∨ JobManager.Step closing.manager next.manager := by
  cases turn with
  | list | pass | insist => exact .inl rfl
  | withdraw stage waits done => exact .inr (.withdraw waits done)
  | @ask id left stage =>
      cases registered : closing.manager.registry.job? id with
      | some job => exact .inr (.askLate registered)
      | none =>
          left
          have nothing : closing.manager.registry.changeJob id Job.asked = closing.manager.registry := by
            unfold changeJob
            rw [Entries.modify_of_absent registered]
          change closing.manager.onto id _ _ _ = closing.manager
          rw [nothing, JobManager.onto_same]
  | refuse stage refused =>
      obtain ⟨-, -, rfl⟩ := unknown_of_cancel_refused refused
      exact .inl rfl
  | close stage => exact .inr .close

structure Sound (closing : Closing) : Prop where
  orderly : closing.manager.Orderly
  used : ∀ id ∈ closing.listed, closing.manager.past id ≠ []
  left : ∀ id ∈ closing.stage.left, id ∈ closing.listed
  stopped : ∀ id ∈ closing.listed,
    id ∈ closing.stage.left ∨ closing.manager.registry.Stopped id
  refused : ∀ fault left, closing.stage = .refused fault left →
    ∃ id rest, left = id :: rest ∧ fault = .notFound id ∧ closing.manager.registry.job? id = none
  finished : closing.stage = .finished → closing.manager.registry.closed = true
  called : closing.stage = .called → closing.turns = 0
  turns : closing.turns + closing.stage.turnsLeft ≤ 2 * closing.listed.length + 2

theorem sound_of_called (orderly : manager.Orderly) : (called manager).Sound where
  orderly := orderly
  used := by simp [called]
  left := by simp [called, ClosingStage.left]
  stopped := by simp [called]
  refused := by simp [called]
  finished := by simp [called]
  called := fun _ => rfl
  turns := by simp [called, ClosingStage.turnsLeft]

namespace Sound

theorem aside (sound : closing.Sound) (step : JobManager.Step closing.manager manager) :
    Sound { closing with manager := manager } where
  orderly := sound.orderly.step step
  used := fun id listed => sound.orderly.still_entered (.single step) (sound.used id listed)
  left := sound.left
  stopped := by
    intro id listed
    rcases sound.stopped id listed with left | stopped
    · exact .inl left
    · exact .inr (sound.orderly.stays_stopped step (sound.used id listed) stopped)
  refused := by
    intro fault left stage
    obtain ⟨id, rest, rfl, rfl, unknown⟩ := sound.refused fault left stage
    have inLeft : id ∈ closing.stage.left := by
      change closing.stage = .refused (.notFound id) (id :: rest) at stage
      rw [stage]
      exact List.mem_cons_self
    have used := sound.used id (sound.left id inLeft)
    exact ⟨id, rest, rfl, rfl, sound.orderly.stays_unknown step used unknown⟩
  finished := fun stage => (sound.orderly.keeps_orders step).closed (sound.finished stage)
  called := sound.called
  turns := sound.turns

theorem done_with (moved : Sound { closing with manager := manager })
    (next : closing.stage.left = id :: left) (enough : 2 * left.length + 2 ≤ closing.stage.turnsLeft)
    (stopped : manager.registry.Stopped id) : Sound (closing.onward manager (.cancelling left)) where
  orderly := moved.orderly
  used := moved.used
  left := by
    intro other waiting
    apply moved.left other
    rw [next]
    exact List.mem_cons_of_mem id waiting
  stopped := by
    intro other listed
    rcases moved.stopped other listed with inLeft | already
    · change other ∈ closing.stage.left at inLeft
      rw [next] at inLeft
      rcases List.mem_cons.1 inLeft with rfl | waiting
      · exact .inr stopped
      · exact .inl waiting
    · exact .inr already
  refused := by simp [onward]
  finished := by simp [onward]
  called := by simp [onward]
  turns := by
    have bounded : closing.turns + closing.stage.turnsLeft ≤ 2 * closing.listed.length + 2 := moved.turns
    change closing.turns + 1 + (2 * left.length + 1) ≤ 2 * closing.listed.length + 2
    omega

theorem list (sound : closing.Sound) (next : closing.stage = .called) :
    Sound (closing.listing.onward closing.manager
      (.cancelling closing.manager.registry.activeIds)) where
  orderly := sound.orderly
  used := by
    intro id active
    obtain ⟨⟨name, job⟩, entry, rfl⟩ := List.mem_map.1 active
    have member : (name, job) ∈ closing.manager.registry.jobs := (List.mem_filter.1 entry).1
    have registered : closing.manager.registry.job? name = some job :=
      (Entries.get_eq_some_iff sound.orderly.distinct name job).2 member
    exact sound.orderly.entered_of_registered registered
  left := fun _ active => active
  stopped := fun _ active => .inl active
  refused := by simp [onward]
  finished := by simp [onward]
  called := by simp [onward]
  turns := by
    have none := sound.called next
    simp only [onward, listing, ClosingStage.turnsLeft]
    omega

/-- The request has come to a stage at which as many jobs are left as before. -/
theorem onward_same {stage : ClosingStage} (moved : Sound { closing with manager := manager })
    (same : stage.left = closing.stage.left) (enough : stage.turnsLeft < closing.stage.turnsLeft)
    (refused : ∀ fault left, stage = .refused fault left →
      ∃ id rest, left = id :: rest ∧ fault = .notFound id ∧ manager.registry.job? id = none)
    (finished : stage = .finished → manager.registry.closed = true) (begun : stage ≠ .called) :
    Sound (closing.onward manager stage) where
  orderly := moved.orderly
  used := moved.used
  left := by
    intro id inLeft
    apply moved.left id
    rw [← same]
    exact inLeft
  stopped := by
    intro id listed
    rcases moved.stopped id listed with inLeft | stopped
    · left
      change id ∈ stage.left
      rw [same]
      exact inLeft
    · exact .inr stopped
  refused := refused
  finished := finished
  called := fun impossible => absurd impossible begun
  turns := by
    have bounded : closing.turns + closing.stage.turnsLeft ≤ 2 * closing.listed.length + 2 := moved.turns
    change closing.turns + 1 + stage.turnsLeft ≤ 2 * closing.listed.length + 2
    omega

theorem turn (sound : closing.Sound) (turn : Turn closing next) : next.Sound := by
  have moved : Sound { closing with manager := next.manager } := by
    rcases manager_of_turn turn with same | step
    · rw [same]
      exact sound
    · exact sound.aside step
  cases turn with
  | list stage => exact sound.list stage
  | @withdraw id left after stage waits done =>
      apply moved.done_with (by rw [stage]; rfl) (by rw [stage]; exact Nat.le_succ _)
      rw [cancel_of_waiting waits] at done
      obtain ⟨-, rfl⟩ := EStateM.Result.ok.inj done
      obtain ⟨⟨job, registered, -⟩, -⟩ := waits
      have ended := (touches_finish (touches_take registered).becomes .cancelled none).becomes
      intro changed known
      obtain rfl := Option.some.inj (ended.symm.trans known)
      exact .inl rfl
  | @pass id left job stage registered ended =>
      apply moved.done_with (by rw [stage]; rfl) (by rw [stage]; exact Nat.le_succ _)
      intro changed known
      obtain rfl := Option.some.inj (registered.symm.trans known)
      exact .inl ended
  | insist stage registered passed active =>
      apply moved.onward_same (by rw [stage]; rfl) (by rw [stage]; exact Nat.lt_succ_self _) <;> simp
  | @ask id left stage =>
      apply moved.done_with (by rw [stage]; rfl) (by rw [stage]; exact Nat.le_refl _)
      intro changed known
      change (closing.manager.registry.changeJob id Job.asked).job? id = some changed at known
      rw [job_change_job, if_pos rfl] at known
      obtain ⟨job, -, rfl⟩ := Option.map_eq_some_iff.1 known
      exact .inr rfl
  | @refuse id left fault after stage refused =>
      obtain ⟨unknown, rfl, rfl⟩ := unknown_of_cancel_refused refused
      apply moved.onward_same (by rw [stage]; rfl) (by rw [stage]; exact Nat.succ_pos _) _ (by simp) (by simp)
      intro fault left same
      obtain ⟨rfl, rfl⟩ := ClosingStage.refused.inj same
      exact ⟨id, _, rfl, rfl, unknown⟩
  | close stage =>
      apply moved.onward_same (by rw [stage]; rfl) (by rw [stage]; exact Nat.succ_pos _) (by simp) _ (by simp)
      exact fun _ => rfl

theorem performs (sound : closing.Sound) (performs : Performs closing next) : next.Sound := by
  induction performs with
  | refl => exact sound
  | tail _ step ih =>
      cases step with
      | turn turn => exact ih.turn turn
      | aside step => exact ih.aside step

end Sound

/-- Until it is over, the request has something to do whenever it is its turn. -/
theorem has_turn (closing : Closing) (goesOn : closing.stage.isOver = false) :
    ∃ next, Turn closing next := by
  cases stage : closing.stage with
  | called => exact ⟨_, .list stage⟩
  | asking id left => exact ⟨_, .ask stage⟩
  | refused fault left =>
      rw [stage] at goesOn
      cases goesOn
  | finished =>
      rw [stage] at goesOn
      cases goesOn
  | cancelling left =>
      cases left with
      | nil => exact ⟨_, .close stage⟩
      | cons id left =>
          cases registered : closing.manager.registry.job? id with
          | none => exact ⟨_, .refuse stage (cancel_of_unknown registered)⟩
          | some job =>
              by_cases waits : closing.manager.registry.Waits id
              · exact ⟨_, .withdraw stage waits (cancel_of_waiting waits)⟩
              · cases active : job.state.isActive with
                | true => exact ⟨_, .insist stage registered waits active⟩
                | false => exact ⟨_, .pass stage registered active⟩

/-- What becomes of a request to shut down. It always has a turn to take until it is over, and it is over after
a number of turns that its list bounds. -/
structure Completes (closing : Closing) : Prop where
  goesOn : closing.stage.isOver = false → ∃ next, Turn closing next
  bounded : closing.turns ≤ 2 * closing.listed.length + 2
  stopped : ∀ id ∈ closing.listed, id ∉ closing.stage.left → closing.manager.registry.Stopped id
  returned : closing.stage = .finished → closing.manager.registry.closed = true ∧
    ∀ id ∈ closing.listed, closing.manager.registry.Stopped id
  refused : ∀ fault left, closing.stage = .refused fault left → ∃ id rest, left = id :: rest ∧
    id ∈ closing.listed ∧ fault = .notFound id ∧ closing.manager.registry.job? id = none
  undisturbed : closing.stage.isOver = true →
    (∀ id ∈ closing.listed, (closing.manager.registry.job? id).isSome) → closing.stage = .finished

/-- A request to shut down stops every job that was active when it took its list and sends the workers home,
unless a listed job has ended and been dropped before its turn: then it is refused for the sake of that job. -/
theorem shutdown_completes_unless_job_dropped (reached : manager.Reached)
    (performs : Performs (called manager) closing) : closing.Completes := by
  have sound := (sound_of_called reached.orderly).performs performs
  have refused : ∀ fault left, closing.stage = .refused fault left → ∃ id rest, left = id :: rest ∧
      id ∈ closing.listed ∧ fault = .notFound id ∧ closing.manager.registry.job? id = none := by
    intro fault left stage
    obtain ⟨id, rest, rfl, rfl, unknown⟩ := sound.refused fault left stage
    refine ⟨id, rest, rfl, sound.left id ?_, rfl, unknown⟩
    rw [stage]
    exact List.mem_cons_self
  refine ⟨closing.has_turn, ?_, ?_, ?_, refused, ?_⟩
  · exact (Nat.le_add_right _ _).trans sound.turns
  · intro id listed done
    exact (sound.stopped id listed).resolve_left done
  · intro stage
    refine ⟨sound.finished stage, fun id listed => (sound.stopped id listed).resolve_left ?_⟩
    rw [stage]
    exact List.not_mem_nil
  · intro ended known
    cases stage : closing.stage with
    | finished => rfl
    | refused fault left =>
        obtain ⟨id, rest, -, listed, -, unknown⟩ := refused fault left stage
        have registered := known id listed
        rw [unknown] at registered
        cases registered
    | _ =>
        rw [stage] at ended
        cases ended

section Undisturbed

theorem turns_cancel {after : JobRegistry} (stage : closing.stage = .cancelling (id :: left))
    (done : (cancel id : JobAction Empty Unit).run closing.manager.registry = .ok () after) :
    ∃ next, Relation.ReflTransGen Turn closing next ∧ next.stage = .cancelling left ∧
      next.manager.registry = after ∧ next.listed = closing.listed := by
  by_cases waits : closing.manager.registry.Waits id
  · exact ⟨_, .single (.withdraw stage waits done), rfl, rfl, rfl⟩
  · cases registered : closing.manager.registry.job? id with
    | none =>
        rw [cancel_of_unknown registered] at done
        cases done
    | some job =>
        cases active : job.state.isActive with
        | false =>
            rw [cancel_of_ended registered active] at done
            obtain ⟨-, rfl⟩ := EStateM.Result.ok.inj done
            exact ⟨_, .single (.pass stage registered active), rfl, rfl, rfl⟩
        | true =>
            rw [cancel_of_active registered waits active] at done
            obtain ⟨-, rfl⟩ := EStateM.Result.ok.inj done
            have insisted := Relation.ReflTransGen.single (Turn.insist stage registered waits active)
            exact ⟨_, insisted.tail (.ask rfl), rfl, rfl, rfl⟩

theorem turns_cancel_all {ids : List String} (stage : closing.stage = .cancelling ids) :
    ∃ next, Relation.ReflTransGen Turn closing next ∧
      match (cancelAll ids : JobAction Empty Unit).run closing.manager.registry with
      | .ok _ after => next.stage = .cancelling [] ∧ next.manager.registry = after ∧
          next.listed = closing.listed
      | .error fault after => (∃ left, next.stage = .refused fault left) ∧
          next.manager.registry = after := by
  induction ids generalizing closing with
  | nil => exact ⟨closing, .refl, stage, rfl, rfl⟩
  | cons id rest ih =>
      simp only [cancelAll, EStateM.run_bind]
      cases outcome : (cancel id : JobAction Empty Unit).run closing.manager.registry with
      | error fault after => exact ⟨_, .single (.refuse stage outcome), ⟨_, rfl⟩, rfl⟩
      | ok answer after =>
          obtain ⟨middle, turns, middleStage, rfl, sameList⟩ := turns_cancel stage outcome
          obtain ⟨next, others, ends⟩ := ih middleStage
          rw [← sameList]
          exact ⟨next, turns.trans others, ends⟩

/-- A request to shut down that is alone takes these turns, and then lets go on who pauses. -/
theorem turns_shut_down (manager : JobManager) :
    ∃ next, Relation.ReflTransGen Turn (called manager) next ∧
      match (shutDown : JobAction Empty Unit).run manager.registry with
      | .ok _ after => next.stage = .finished ∧
          after = next.listed.foldl (fun state id => state.resume id) next.manager.registry
      | .error fault after => (∃ left, next.stage = .refused fault left) ∧
          next.manager.registry = after := by
  have listed : Relation.ReflTransGen Turn (called manager) _ := .single (.list rfl)
  have stage : ((called manager).listing.onward manager
      (.cancelling manager.registry.activeIds)).stage = .cancelling manager.registry.activeIds := rfl
  obtain ⟨cancelled, turns, ends⟩ := turns_cancel_all stage
  change match (cancelAll manager.registry.activeIds : JobAction Empty Unit).run manager.registry with
    | .ok _ after => _ | .error fault after => _ at ends
  simp only [shutDown, EStateM.run_bind, EStateM.run_get]
  cases outcome : (cancelAll manager.registry.activeIds : JobAction Empty Unit).run manager.registry with
  | error fault after =>
      rw [outcome] at ends
      exact ⟨cancelled, listed.trans turns, ends⟩
  | ok answer after =>
      rw [outcome] at ends
      obtain ⟨stage, rfl, sameList⟩ := ends
      refine ⟨_, (listed.trans turns).tail (.close stage), rfl, ?_⟩
      change List.foldl _ _ manager.registry.activeIds = List.foldl _ _ cancelled.listed
      rw [sameList]
      rfl

end Undisturbed

theorem performs_aside {after : JobManager} {listed : List String} {stage : ClosingStage} {turns : Nat}
    (performs : JobManager.Performs manager after) :
    Performs ⟨manager, listed, stage, turns⟩ ⟨after, listed, stage, turns⟩ := by
  induction performs with
  | refl => exact .refl
  | tail _ step ih => exact ih.tail (.aside step)

section Mornings

open JobManager

/-- A job that waits for a worker is withdrawn. -/
theorem morning_is_withdrawn : ∃ (manager : JobManager) (closing : Closing), manager.Reached ∧
    Performs (called manager) closing ∧ closing.listed = ["a"] ∧ closing.stage = .finished ∧
    closing.Completes := by
  let waiting := (idle openHouse).onto "a" (morningQueued MusicMorning.config) none [.entered]
  have reached : waiting.Reached :=
    ⟨1, MusicMorning.config, 1800, .taking, openHouse, open_house_made, morning_enters rfl⟩
  have waits : waiting.registry.Waits "a" :=
    ⟨⟨morningJob MusicMorning.config, rfl, rfl⟩, List.mem_cons_self⟩
  have listed : Performs (called waiting) _ := .single (.turn (.list rfl))
  have withdrawn := listed.tail (.turn (.withdraw rfl waits (cancel_of_waiting waits)))
  have finished := withdrawn.tail (.turn (.close rfl))
  exact ⟨waiting, _, reached, finished, rfl, rfl, shutdown_completes_unless_job_dropped reached finished⟩

/-- A worker who searches comes to the end of its job, and only that job changes. -/
theorem worker_completes {job : Job} {solver : Solver Twister} {scores : List Score}
    {result : SolveResult} {solution : Solution} (orderly : manager.Orderly)
    (work : manager.work id = some .solving) (registered : manager.registry.job? id = some job)
    (run : Solver.Run job.solver scores solver) (outcome : solver.outcome? = some (.ok result))
    (built : result.solution job.config = .ok solution) (taking : manager.registry.sink = .taking) :
    ∃ (after : JobManager) (changed : Job), JobManager.Performs manager after ∧
      Touches id job changed manager.registry after.registry ∧
      changed.finishedAt = some manager.registry.clock.now ∧
      after.registry.clock = manager.registry.clock ∧
      after.registry.keptSeconds = manager.registry.keptSeconds ∧
      after.registry.closed = manager.registry.closed := by
  let searched := manager.onto id (manager.registry.changeJob id (Job.withSolver solver))
    (some .solving) (manager.past id)
  have touches := touches_change_job registered (Job.withSolver solver)
  have performs : JobManager.Performs manager searched := performs_run orderly work registered run
  let delivered : JobRegistry :=
    { searched.registry with saved := searched.registry.saved ++ [solution] }
  have delivery : searched.registry.deliver solution = .ok delivered := by
    have accepts : searched.registry.sink = .taking := taking
    simp only [deliver, accepts, delivered]
  have completes := performs_success (onto_work ..) touches.becomes outcome built delivery
  have kept : delivered.job? id = some (job.withSolver solver) := touches.becomes
  have stored := touches_succeed kept result solution
  have solved := (touches_change_job kept (Job.solved result solution)).becomes
  have ended : delivered.succeed id result solution = _ := finish_of_registered solved result.endState none
  refine ⟨_, _, performs.trans completes,
    touches.trans ⟨kept, stored.becomes, stored.others, stored.queue, stored.present, stored.keys⟩,
    rfl, ?_⟩
  rw [onto_registry, ended]
  exact ⟨rfl, rfl, rfl⟩

theorem two_jobs_begin : ∃ (manager : JobManager) (running waiting : Job), manager.Reached ∧
    manager.registry.activeIds = ["a", "b"] ∧ manager.work "a" = some .solving ∧
    manager.registry.job? "a" = some running ∧ manager.registry.job? "b" = some waiting ∧
    waiting.state = .pending ∧ waiting.solver.cancelled = false ∧
    manager.registry = { openHouse with
      jobs := manager.registry.jobs, active := manager.registry.active, queue := ["b"] } ∧
    ∃ scores ended result solution, Solver.Run running.solver scores ended ∧
      ended.outcome? = some (.ok result) ∧ result.solution running.config = .ok solution := by
  obtain ⟨warnings, assembled⟩ := MusicMorning.config_assembles
  let first := morningJob MusicMorning.config
  let second : Job := { first with term := "U" }
  let alone := (idle openHouse).onto "a" (morningQueued MusicMorning.config) none [.entered]
  have isNew : second.IsNew := ⟨MusicMorning.problem, _, warnings, _, _, _, assembled, rfl⟩
  have done : (enter "b" second : JobAction Empty Unit).run (alone.registry.reserved "U") =
      .ok () { alone.registry.register "b" second with queue := ["a", "b"] } := enter_of_open rfl
  have both : JobManager.Performs alone _ := performs_enter rfl rfl isNew (.inl done)
  have begun := ((morning_enters rfl).trans both).trans (performs_begin List.mem_cons_self)
  obtain ⟨scores, result, solution, ended, run, terminated, resolved⟩ :=
    MusicMorning.comes_to_document Twister.inexhaustible first.solver.clock _
  have outcome : ended.outcome? = some (.ok result) := by simp only [Solver.outcome?, terminated]
  exact ⟨_, { first with state := .running }, second,
    ⟨1, MusicMorning.config, 1800, .taking, openHouse, open_house_made, begun⟩, rfl, onto_work .., rfl,
    rfl, rfl, rfl, rfl, scores, ended, result, solution, run, outcome, resolved⟩

/-- A job that was listed ends and is dropped before its turn. The request is refused for the sake of it, so that
the job that waits in the queue is not cancelled and the workers are not sent home. -/
theorem dropped_job_refuses_shutdown : ∃ (manager : JobManager) (closing : Closing), manager.Reached ∧
    Performs (called manager) closing ∧ closing.listed = ["a", "b"] ∧
    closing.stage = .refused (.notFound "a") ["a", "b"] ∧ closing.manager.registry.closed = false ∧
    ∃ job, closing.manager.registry.job? "b" = some job ∧ job.state = .pending ∧
      job.solver.cancelled = false := by
  obtain ⟨manager, running, waiting, reached, active, work, registered, queued, pending, unasked, same,
    scores, ended, result, solution, run, outcome, resolved⟩ := two_jobs_begin
  have listed : Performs (called manager) ⟨manager, ["a", "b"], .cancelling ["a", "b"], 1⟩ := by
    rw [← active]
    exact .single (.turn (.list rfl))
  -- The worker comes to the end of the first job, and an hour later it is dropped.
  obtain ⟨after, changed, completes, touches, finished, clock, kept, closed⟩ :=
    worker_completes reached.orderly work registered run outcome resolved (by rw [same]; rfl)
  let later : JobManager := { after with registry := after.registry.advance 3600 }
  have orderly : later.Orderly := (reached.orderly.performs completes).step (.advance 3600)
  let swept : JobManager :=
    { later with registry := later.registry.withoutStale later.registry.clock.now }
  have done : (dropStale later.registry.clock.now : JobAction Empty Nat).run later.registry =
      .ok _ (later.registry.withoutStale later.registry.clock.now) := drop_stale_run _ _
  have drops : JobManager.Performs manager swept := (completes.tail (.advance 3600)).tail (.sweep done)
  have start : manager.registry.clock = .still ∧ manager.registry.keptSeconds = 1800 := by
    rw [same]
    exact ⟨rfl, rfl⟩
  have stale : later.registry.isStale later.registry.clock.now changed = true := by
    change changed.finishedAt.any (fun finished => after.registry.keptSeconds <
      (after.registry.clock.advance 3600).now - finished) = true
    rw [finished, kept, clock, start.1, start.2]
    decide
  have left : ∀ id, swept.registry.job? id = (after.registry.job? id).filter fun job =>
      !later.registry.isStale later.registry.clock.now job :=
    job_without_stale orderly.distinct later.registry.clock.now
  have unknown : swept.registry.job? "a" = none := by
    rw [left, touches.becomes, Option.filter_some_neg (by simpa using stale)]
  have stays : swept.registry.job? "b" = some waiting := by
    have known : after.registry.job? "b" = some waiting :=
      (touches.others "b" (by decide)).trans queued
    have unfinished : waiting.finishedAt = none := by
      have life := orderly.lives "b"
      change Life _ (after.registry.job? "b") _ _ _ at life
      rw [known] at life
      have ended := life.finished_iff
      rw [pending] at ended
      simpa [JobState.isActive] using ended
    rw [left, known, Option.filter_some_pos]
    simp [isStale, unfinished]
  have refused := (listed.trans (performs_aside drops)).tail
    (.turn (.refuse rfl (cancel_of_unknown unknown)))
  refine ⟨manager, _, reached, refused, rfl, rfl, ?_, waiting, stays, pending, unasked⟩
  change after.registry.closed = false
  rw [closed, same]
  rfl

end Mornings

end Closing

end SchoolTimetable
