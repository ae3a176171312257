import SchoolTimetable.Jobs.Workers
import SchoolTimetable.Proofs.Jobs.Sections
import SchoolTimetable.Proofs.Solution.Resolution

/-!
Requests to start a solve that are refused. Whether the term is taken, the problem cannot be loaded or it
cannot be assembled: the registry is afterwards what it was before. Only where the workers have been sent
home the job stays registered, and with it its term is taken.
-/

namespace SchoolTimetable.JobRegistry

variable {Failure : Type} {registry after : JobRegistry} {id term : String} {config : Option Config}
  {pause : Option Pause} {load : JobAction Failure Problem} {fault : JobFault Failure}

/-- A source of problems that leaves the registry alone, whether it has the problem or fails. -/
def Undisturbing (load : JobAction Failure Problem) : Prop :=
  ∀ registry, (∃ problem, load.run registry = .ok problem registry) ∨
    ∃ failure, load.run registry = .error failure registry

theorem release_reserved (free : Entries.get? term registry.active = none) :
    (release term : JobAction Failure Unit).run (registry.reserved term) = .ok () registry := by
  rw [release_run]
  simp only [reserved, Entries.erase_put_of_absent none free]

section Requests

variable {problem : Problem} (free : Entries.get? term registry.active = none)

theorem start_of_taken {holder : Option String}
    (taken : Entries.get? term registry.active = some holder) :
    (start id term config pause load).run registry = .error (.alreadyRunning term holder) registry := by
  unfold start
  rw [EStateM.run_bind, reserve_of_taken taken]

include free

theorem start_of_unloadable (failed : load.run (registry.reserved term) =
      .error fault (registry.reserved term)) :
    (start id term config pause load).run registry = .error fault registry := by
  simp only [start, EStateM.run_bind, reserve_of_free free, EStateM.run_get, failed]
  simp only [EStateM.run_set, release_reserved free]
  rfl

theorem start_of_unassemblable {faults : List AssemblyFault}
    (loaded : load.run (registry.reserved term) = .ok problem (registry.reserved term))
    (unassemblable : problem.assemble (config.getD registry.config) = .error faults) :
    (start id term config pause load).run registry = .error (.unassemblable faults) registry := by
  have settings : problem.assemble (config.getD (registry.reserved term).config) = .error faults :=
    unassemblable
  simp only [start, EStateM.run_bind, reserve_of_free free, EStateM.run_get, loaded, EStateM.run_set,
    settings, release_reserved free]
  rfl

/-- Where the workers have been sent home, the job of a request that goes through to them stays. -/
theorem start_of_closed {timetable : Timetable} {warnings : List WorkloadWarning}
    (loaded : load.run (registry.reserved term) = .ok problem (registry.reserved term))
    (assembled : problem.assemble (config.getD registry.config) = .ok (timetable, warnings))
    (closed : registry.closed = true) :
    (start id term config pause load).run registry = .error .poolClosed (registry.register id
      (.pending term (config.getD registry.config) timetable registry.clock pause)) := by
  have settings : problem.assemble (config.getD (registry.reserved term).config) =
      .ok (timetable, warnings) := assembled
  have refused : (enter id (.pending term (config.getD (registry.reserved term).config) timetable
      (registry.reserved term).clock pause) : JobAction Failure Unit).run (registry.reserved term) =
        .error .poolClosed (registry.register id
          (.pending term (config.getD registry.config) timetable registry.clock pause)) :=
    enter_of_reserved_closed closed
  simp only [start, EStateM.run_bind, reserve_of_free free, EStateM.run_get, loaded, EStateM.run_set,
    settings, refused]

theorem start_of_open {timetable : Timetable} {warnings : List WorkloadWarning}
    (loaded : load.run (registry.reserved term) = .ok problem (registry.reserved term))
    (assembled : problem.assemble (config.getD registry.config) = .ok (timetable, warnings))
    (isOpen : registry.closed = false) :
    (start id term config pause load).run registry = .ok () (settle { registry.register id
      (.pending term (config.getD registry.config) timetable registry.clock pause) with
        queue := registry.queue ++ [id] }) := by
  have settings : problem.assemble (config.getD (registry.reserved term).config) =
      .ok (timetable, warnings) := assembled
  have entered : (enter id (.pending term (config.getD (registry.reserved term).config) timetable
      (registry.reserved term).clock pause) : JobAction Failure Unit).run (registry.reserved term) =
        .ok () { registry.register id
          (.pending term (config.getD registry.config) timetable registry.clock pause) with
            queue := registry.queue ++ [id] } :=
    enter_of_reserved isOpen
  simp only [start, EStateM.run_bind, reserve_of_free free, EStateM.run_get, loaded, EStateM.run_set,
    settings, entered, EStateM.run_modify]

end Requests

/-- A failed request leaves the registry as it was, unless the workers were gone: then its job is
registered all the same. -/
theorem start_failed (undisturbing : Undisturbing load)
    (failed : (start id term config pause load).run registry = .error fault after) :
    after = registry ∨ fault = .poolClosed ∧ registry.closed = true ∧ ∃ timetable,
      after = registry.register id
        (.pending term (config.getD registry.config) timetable registry.clock pause) := by
  cases holder : Entries.get? term registry.active with
  | some job =>
      rw [start_of_taken holder] at failed
      exact .inl (EStateM.Result.error.inj failed).2.symm
  | none =>
      rcases undisturbing (registry.reserved term) with ⟨problem, loaded⟩ | ⟨failure, unloadable⟩
      · cases outcome : problem.assemble (config.getD registry.config) with
        | error faults =>
            rw [start_of_unassemblable holder loaded outcome] at failed
            exact .inl (EStateM.Result.error.inj failed).2.symm
        | ok assembled =>
            obtain ⟨timetable, warnings⟩ := assembled
            cases closed : registry.closed with
            | false =>
                rw [start_of_open holder loaded outcome closed] at failed
                cases failed
            | true =>
                rw [start_of_closed holder loaded outcome closed] at failed
                obtain ⟨rfl, rfl⟩ := EStateM.Result.error.inj failed
                exact .inr ⟨rfl, rfl, timetable, rfl⟩
      · rw [start_of_unloadable holder unloadable] at failed
        exact .inl (EStateM.Result.error.inj failed).2.symm

/-- A failed request leaves no trace, unless it fails because the workers have been sent home. Then its job
is registered and waits for nobody, and every other request for the term is refused because of it. -/
theorem failed_start_leaves_no_trace_unless_closed (undisturbing : Undisturbing load)
    (failed : (start id term config pause load).run registry = .error fault after) :
    after = registry ∨ fault = .poolClosed ∧ registry.closed = true ∧ ∃ job : Job,
      job.term = term ∧ job.state = .pending ∧ after = registry.register id job ∧
        ∀ (other : String) (otherConfig : Option Config) (otherPause : Option Pause)
          (otherLoad : JobAction Failure Problem),
          (start other term otherConfig otherPause otherLoad).run after =
            .error (.alreadyRunning term (some id)) after := by
  rcases start_failed undisturbing failed with same | ⟨poolClosed, closed, timetable, rfl⟩
  · exact .inl same
  · refine .inr ⟨poolClosed, closed, _, rfl, rfl, rfl, ?_⟩
    intro other otherConfig otherPause otherLoad
    apply start_of_taken
    unfold register Job.pending
    rw [Entries.get_put, if_pos rfl]

/-- Where a source fails, the fault is its own and none of the registry. -/
def FailsOnItsOwn (load : JobAction Failure Problem) : Prop :=
  ∀ registry fault after, load.run registry = .error fault after →
    ∃ failure, fault = .source failure

/-- A request that has its term reserved is not refused for the sake of the term any more. -/
theorem start_of_free_not_refused (free : Entries.get? term registry.active = none)
    (ownFaults : FailsOnItsOwn load) (holder : Option String) (after : JobRegistry) :
    (start id term config pause load).run registry ≠ .error (.alreadyRunning term holder) after := by
  intro refused
  simp only [start, EStateM.run_bind, reserve_of_free free, EStateM.run_get] at refused
  cases loaded : load.run (registry.reserved term) with
  | error fault loadedRegistry =>
      obtain ⟨failure, rfl⟩ := ownFaults _ _ _ loaded
      rw [loaded] at refused
      cases refused
  | ok problem loadedRegistry =>
      simp only [loaded] at refused
      cases assembled : problem.assemble (config.getD (registry.reserved term).config) with
      | error faults =>
          rw [assembled] at refused
          cases refused
      | ok outcome =>
          obtain ⟨timetable, warnings⟩ := outcome
          simp only [assembled, EStateM.run_bind, EStateM.run_set] at refused
          cases closed : loadedRegistry.closed with
          | true =>
              simp only [enter_of_closed closed] at refused
              cases refused
          | false =>
              simp only [enter_of_open closed] at refused
              cases refused

/-- A request is refused for the sake of its term exactly if the term is in the table. -/
theorem start_refused_iff (ownFaults : FailsOnItsOwn load) :
    (∃ holder after, (start id term config pause load).run registry =
      .error (.alreadyRunning term holder) after) ↔
      (Entries.get? term registry.active).isSome := by
  cases holder : Entries.get? term registry.active with
  | some job => exact ⟨fun _ => rfl, fun _ => ⟨job, registry, start_of_taken holder⟩⟩
  | none =>
      constructor
      · rintro ⟨other, after, refused⟩
        exact absurd refused (start_of_free_not_refused holder ownFaults other after)
      · exact fun impossible => (nomatch impossible)

def sentHome : JobRegistry :=
  ⟨MusicMorning.config, 1, 1800, .absent, .still, [], [], [], true, []⟩

theorem undisturbing_pure (problem : Problem) :
    Undisturbing (pure problem : JobAction Empty Problem) :=
  fun _ => .inl ⟨problem, rfl⟩

theorem sent_home_refuses : ∃ job : Job, job.term = "T" ∧
    (start "a" "T" none none (pure MusicMorning.problem : JobAction Empty Problem)).run sentHome =
      .error .poolClosed (sentHome.register "a" job) := by
  obtain ⟨warnings, assembled⟩ := MusicMorning.config_assembles
  exact ⟨_, rfl, start_of_closed rfl rfl assembled rfl⟩

theorem sent_home_keeps_the_job : ∃ after : JobRegistry,
    (start "a" "T" none none (pure MusicMorning.problem : JobAction Empty Problem)).run sentHome =
      .error .poolClosed after ∧ ∃ job : Job, job.term = "T" ∧ after = sentHome.register "a" job := by
  obtain ⟨job, -, refused⟩ := sent_home_refuses
  have trace := failed_start_leaves_no_trace_unless_closed (undisturbing_pure MusicMorning.problem) refused
  refine ⟨_, refused, ?_⟩
  rcases trace with none | ⟨-, -, other, ofTerm, -, same, -⟩
  · have registered := congrArg (fun registry => registry.jobs.length) none
    cases registered
  · exact ⟨other, ofTerm, same⟩

/-- The same request made again is refused because of the one that failed. -/
theorem sent_home_refuses_again : ∃ after : JobRegistry,
    (start "a" "T" none none (pure MusicMorning.problem : JobAction Empty Problem)).run sentHome =
      .error .poolClosed after ∧
    after.jobs.map (·.1) = ["a"] ∧ after.active = [("T", some "a")] ∧
    (start "b" "T" none none (pure MusicMorning.problem : JobAction Empty Problem)).run after =
      .error (.alreadyRunning "T" (some "a")) after := by
  obtain ⟨job, ofTerm, refused⟩ := sent_home_refuses
  have active : (sentHome.register "a" job).active = [("T", some "a")] := by
    simp only [register, ofTerm]
    rfl
  refine ⟨_, refused, rfl, active, start_of_taken ?_⟩
  rw [active]
  rfl

end SchoolTimetable.JobRegistry
