import SchoolTimetable.Proofs.Problem.Hours
import SchoolTimetable.Proofs.Problem.Sources
import SchoolTimetable.Proofs.Search.Endurance
import SchoolTimetable.Proofs.Search.Success
import SchoolTimetable.Proofs.Timetable.Assembling

/-!
How a solve can begin. A timetable that was assembled from a checked snapshot has slots for its lessons,
so construction comes to its end unless all lessons are to be placed at once with a seed that is not
taken; the search can then be started unless its history is to be too long.
-/

namespace SchoolTimetable

namespace Problem

variable {problem : Problem} {config : Config} {timetable : Timetable}
  {warnings : List WorkloadWarning}

theorem slots_needed_pos {requirements : List Requirement}
    (hours : ∀ requirement ∈ requirements, 1 ≤ requirement.weeklyHours)
    (someRequirements : requirements ≠ []) : 1 ≤ slotsNeeded requirements := by
  have kept : ∀ pattern, ∀ requirement ∈ requirements.filter (·.pattern == pattern),
      1 ≤ requirement.weeklyHours :=
    fun pattern requirement listed => hours requirement (List.mem_filter.1 listed).1
  have nonneg : ∀ pattern, 0 ≤ hoursOf requirements pattern :=
    fun pattern => Requirement.total_hours_nonneg (kept pattern)
  obtain ⟨requirement, listed⟩ := List.exists_mem_of_ne_nil requirements someRequirements
  have own : 1 ≤ hoursOf requirements requirement.pattern :=
    Requirement.total_hours_pos (kept requirement.pattern)
      (List.ne_nil_of_mem (List.mem_filter.2 ⟨listed, beq_self_eq_true _⟩))
  have every := nonneg .every
  have inA := nonneg .a
  have inB := nonneg .b
  unfold slotsNeeded
  cases pattern : requirement.pattern <;> rw [pattern] at own <;> omega

theorem slots_of_assembled (valid : problem.Valid)
    (assembled : problem.assemble config = .ok (timetable, warnings)) : timetable.HasSlots := by
  intro someLessons
  obtain ⟨lesson, listed⟩ := List.exists_mem_of_ne_nil _ someLessons
  obtain ⟨entry, recorded, member, serves⟩ := serves_of_mem_assembled assembled listed
  obtain ⟨same, faultless⟩ := assemble_ok assembled
  have required : entry.1 ∈ problem.requirements := (List.of_mem_zip recorded).1
  generalize problem.lessonsFor config entry = lessons at member serves
  cases serves with
  | inactive => cases member
  | @active schoolClass _ classFound _ _ _ =>
      have inClass : entry.1.schoolClass ∈ problem.buildClasses.map (·.id) := by
        refine List.mem_map.2 ⟨schoolClass, List.mem_of_find?_eq_some classFound, ?_⟩
        simpa using List.find?_some classFound
      have notOverfull : problem.overfullClasses = [] := by
        unfold assemblyFaults at faultless
        exact (List.append_eq_nil_iff.1 (List.append_eq_nil_iff.1 faultless).1).2
      have enough : slotsNeeded (problem.requirements.filter (·.schoolClass = entry.1.schoolClass)) ≤
          ((problem.slots.filter (!·.isBreak)).length : Int) := by
        rw [← Int.not_lt, ← class_overfull_iff inClass, notOverfull]
        exact not_exists.2 fun _ => List.not_mem_nil
      have needed : 1 ≤ slotsNeeded (problem.requirements.filter (·.schoolClass = entry.1.schoolClass)) := by
        apply slots_needed_pos
        · intro requirement own
          exact valid.hours requirement (List.mem_filter.1 own).1
        · exact List.ne_nil_of_mem (List.mem_filter.2 ⟨required, decide_eq_true rfl⟩)
      rw [same]
      change problem.buildSlots ≠ []
      intro noSlots
      rw [← build_slots_length, noSlots] at enough
      simp only [List.length_nil, Nat.cast_zero] at enough
      omega

end Problem

namespace Director

variable {director : Director}

theorem apply_choices_succeeds (working : director.timetable.isFinal = false) (choices : List Choice) :
    ∃ next, choices.foldlM applyChoice director = .ok next := by
  induction choices generalizing director with
  | nil => exact ⟨director, rfl⟩
  | cons choice rest ih =>
      have applied : ∃ between, director.applyChoice choice = .ok between ∧
          between.timetable.isFinal = false := by
        unfold applyChoice
        cases director.timetable.slots[choice.slot]? with
        | none => exact ⟨director, rfl, working⟩
        | some slot =>
            have known : Setting.unknownName? [.slot (some slot), .teacher choice.teacher] = none := rfl
            obtain ⟨between, changed⟩ := change_of_working choice.lesson working known
            refine ⟨between, changed, ?_⟩
            rw [change_timetable changed]
            exact working
      obtain ⟨between, first, stillWorking⟩ := applied
      obtain ⟨next, others⟩ := ih stillWorking
      refine ⟨next, ?_⟩
      rw [List.foldlM_cons]
      exact bind_ok.2 ⟨between, first, others⟩

section Placing

variable (placer : ExactPlacer) (seed : Option Int)
  (complete : (PlacementModel.build director.timetable).complete = true)
  (allowed : seed.all takesSeed = true)

include complete allowed

theorem place_exactly_of_answer (working : director.timetable.isFinal = false)
    {taken : Choice → Bool}
    (answered : placer (PlacementModel.build director.timetable) = some taken) :
    ∃ next, director.placeExactlyBy placer seed = .ok (.optimal, next) := by
  rcases apply_choices_succeeds working
    ((PlacementModel.build director.timetable).choices.filter taken) with ⟨next, applied⟩
  refine ⟨next, ?_⟩
  unfold placeExactlyBy
  dsimp only
  rw [if_pos complete, if_pos allowed, answered]
  exact bind_ok.2 ⟨next, applied, rfl⟩

theorem place_exactly_of_none
    (none : placer (PlacementModel.build director.timetable) = none) :
    director.placeExactlyBy placer seed = .ok (.infeasible, director) := by
  unfold placeExactlyBy
  dsimp only
  rw [if_pos complete, if_pos allowed, none]

end Placing

/-- All lessons can be placed at once if the seed is one that is taken, or is not asked for. -/
theorem place_exactly_succeeds (placer : ExactPlacer) (working : director.timetable.isFinal = false)
    {seed : Option Int}
    (taken : (PlacementModel.build director.timetable).complete → seed.all takesSeed = true) :
    ∃ status next, director.placeExactlyBy placer seed = .ok (status, next) := by
  cases complete : (PlacementModel.build director.timetable).complete with
  | true =>
      cases answered : placer (PlacementModel.build director.timetable) with
      | some answer =>
          rcases place_exactly_of_answer placer seed complete (taken complete) working answered with
            ⟨next, placed⟩
          exact ⟨_, next, placed⟩
      | none => exact ⟨_, _, place_exactly_of_none placer seed complete (taken complete) answered⟩
  | false =>
      refine ⟨.unknown, director, ?_⟩
      unfold placeExactlyBy
      dsimp only
      rw [complete]
      rfl

end Director

namespace Solver

/-- All lessons are to be placed at once, and could be, but with a seed that is not taken. -/
structure SeedRefused (config : Config) (timetable : Timetable) : Prop where
  exact : config.construction = .exact
  complete : (PlacementModel.build timetable).complete
  outside : config.seed.all Director.takesSeed = false

/-- A history of past scores is asked for that takes more bytes than a machine word can count. -/
structure HistoryTooLong (settings : AcceptorSettings) : Prop where
  kind : settings.kind = .lateAcceptance
  tooLong : Acceptor.greatestHistory < settings.historySize.toNat

variable {config : Config} {timetable : Timetable}

/-- A first fit comes to its end wherever there are slots for its lessons. -/
theorem first_fit_succeeds {begun : Director} (working : begun.timetable.isFinal = false)
    (slots : begun.timetable.HasSlots) :
    ∃ score state, FirstFit.run.run (FirstFit.ofDirector begun) = .ok score state := by
  by_cases someLessons : begun.timetable.lessons = []
  · have nothingToDo : constructionOrder (FirstFit.ofDirector begun).director.timetable.lessons = [] := by
      change constructionOrder begun.timetable.lessons = []
      rw [someLessons]
      simp [constructionOrder]
    refine ⟨begun.score, FirstFit.ofDirector begun, run_bind_ok.2 ⟨_, _, rfl, ?_⟩⟩
    rw [nothingToDo]
    rfl
  · exact FirstFit.run_succeeds (FirstFit.working_of_director working (slots someLessons))

theorem construct_of_seed_refused (placer : ExactPlacer) (refused : SeedRefused config timetable) :
    construct placer config timetable = .error .seedRange := by
  have fresh := Director.of_timetable_timetable timetable config.weights
  have failed : (Director.ofTimetable timetable config.weights).placeExactlyBy placer config.seed =
      .error .seedRange := by
    unfold Director.placeExactlyBy
    dsimp only
    rw [fresh, if_pos refused.complete, if_neg (by simp [refused.outside])]
  simp only [construct, refused.exact, failed, bind, Except.bind]

theorem construct_of_seed_taken (placer : ExactPlacer) (working : timetable.isFinal = false)
    (slots : timetable.HasSlots) (taken : ¬ SeedRefused config timetable) :
    ∃ director, construct placer config timetable = .ok director := by
  have fresh := Director.of_timetable_timetable timetable config.weights
  have tracked := Director.tracks_of_timetable timetable config.weights
  have completes : ∀ begun : Director, begun.Tracks timetable config.weights →
      ∃ score state, FirstFit.run.run (FirstFit.ofDirector begun) = .ok score state := by
    intro begun tracks
    exact first_fit_succeeds (tracks.arranges.isFinal.trans working) (tracks.arranges.hasSlots slots)
  have freshWorking : (Director.ofTimetable timetable config.weights).timetable.isFinal = false := by
    rw [fresh]
    exact working
  cases strategy : config.construction with
  | firstFit =>
      obtain ⟨score, state, ran⟩ := completes _ tracked
      refine ⟨state.director, ?_⟩
      simp only [construct, strategy, pure_bind, ran]
      rfl
  | exact =>
      have allowed : (PlacementModel.build
            (Director.ofTimetable timetable config.weights).timetable).complete →
          config.seed.all Director.takesSeed = true := by
        intro complete
        by_contra outside
        exact taken ⟨strategy, fresh ▸ complete, by simpa using outside⟩
      obtain ⟨status, next, placed⟩ := Director.place_exactly_succeeds placer freshWorking allowed
      obtain ⟨score, state, ran⟩ := completes next (tracked.place_exactly placed)
      refine ⟨state.director, ?_⟩
      simp only [construct, strategy, placed, bind, Except.bind, pure, Except.pure, ran]

theorem construct_fails {placer : ExactPlacer} {fault : PlanningFault}
    (working : timetable.isFinal = false) (slots : timetable.HasSlots)
    (failed : construct placer config timetable = .error fault) :
    SeedRefused config timetable ∧ fault = .seedRange := by
  by_cases refused : SeedRefused config timetable
  · rw [construct_of_seed_refused placer refused] at failed
    exact ⟨refused, (Except.error.inj failed).symm⟩
  · obtain ⟨director, done⟩ := construct_of_seed_taken placer working slots refused
    rw [done] at failed
    cases failed

variable {Source : Type} {settings : AcceptorSettings} {director : Director} {source : Source}

theorem serves_of_start {search : LocalSearch Source}
    (started : LocalSearch.start settings director source = .ok search) :
    search.acceptor.Serves settings := by
  obtain ⟨acceptor, made, rest⟩ := bind_ok.1 started
  obtain ⟨ready, began, same⟩ := bind_ok.1 rest
  obtain rfl := Except.ok.inj same
  exact Acceptor.serves_of_started made began

theorem start_of_history_too_long (notEmpty : 1 ≤ settings.historySize)
    (tooLong : HistoryTooLong settings) (director : Director) (source : Source) :
    LocalSearch.start settings director source =
      .error (.historyTooLarge settings.historySize.toNat) := by
  have made : Acceptor.ofSettings settings =
      .ok (.lateAcceptance settings.historySize.toNat #[] 0) := by
    unfold Acceptor.ofSettings
    rw [tooLong.kind]
    exact if_neg (not_lt.2 notEmpty)
  have refused : (Acceptor.lateAcceptance settings.historySize.toNat #[] 0).started director.score =
      .error (.historyTooLarge settings.historySize.toNat) := if_pos tooLong.tooLong
  simp only [LocalSearch.start, made, bind, Except.bind, refused]

theorem start_of_history (notEmpty : 1 ≤ settings.historySize) (bounded : ¬ HistoryTooLong settings)
    (director : Director) (source : Source) :
    ∃ search, LocalSearch.start settings director source = .ok search := by
  have made : ∃ acceptor ready, Acceptor.ofSettings settings = .ok acceptor ∧
      acceptor.started director.score = .ok ready := by
    cases kind : settings.kind with
    | lateAcceptance =>
        exact Acceptor.of_settings_started notEmpty
          (not_lt.1 fun beyond => bounded ⟨kind, beyond⟩) director.score
    | simulatedAnnealing => exact ⟨_, _, by rw [Acceptor.ofSettings, kind], rfl⟩
    | hillClimbing => exact ⟨_, _, by rw [Acceptor.ofSettings, kind], rfl⟩
  obtain ⟨acceptor, ready, known, became⟩ := made
  exact ⟨_, bind_ok.2 ⟨acceptor, known, bind_ok.2 ⟨ready, became, rfl⟩⟩⟩

theorem start_fails {fault : PlanningFault} (notEmpty : 1 ≤ settings.historySize)
    (failed : LocalSearch.start settings director source = .error fault) :
    HistoryTooLong settings ∧ fault = .historyTooLarge settings.historySize.toNat := by
  by_cases tooLong : HistoryTooLong settings
  · rw [start_of_history_too_long notEmpty tooLong] at failed
    exact ⟨tooLong, (Except.error.inj failed).symm⟩
  · obtain ⟨search, started⟩ := start_of_history notEmpty tooLong director source
    rw [started] at failed
    cases failed

end Solver

end SchoolTimetable
