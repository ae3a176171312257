import SchoolTimetable.Proofs.Search.Delivery
import SchoolTimetable.Proofs.Search.Endings
import SchoolTimetable.Proofs.Search.Refinement
import SchoolTimetable.Proofs.Solution.Fulfilment
import SchoolTimetable.Random.Twister

/-!
What becomes of a whole solve. With a limit on its moves it either delivers its best placements, and the
timetable is final, or it fails by a number that is too great, and by nothing else.
-/

namespace SchoolTimetable

namespace Solver

variable {Source : Type} [RandomSource Source]

/-- A solve has ended with a result, and that is the best that it has come by. -/
structure Delivers (start ended : Solver Source) (result : SolveResult) : Prop where
  phase : ended.phase = .terminated
  stage : ended.stage = .terminated result
  isFinal : result.timetable.isFinal = true
  restored : ∃ best, ended.published.head? = some best ∧
    result.timetable = reported start.base best ∧ result.timetable.snapshot = best.snapshot
  greatest : ∃ constructed scores, construct start.placer start.config start.base = .ok constructed ∧
    Run start scores ended ∧ IsGreatest { score | score ∈ constructed.score :: scores } result.score

theorem Run.delivers {placer : ExactPlacer} {timetable : Timetable} {config : Config} {clock : Clock}
    {source : Source} {scores : List Score} {ended : Solver Source} {result : SolveResult}
    (run : Run (ofTimetableWith placer timetable config clock source) scores ended)
    (stage : ended.stage = .terminated result) :
    Delivers (ofTimetableWith placer timetable config clock source) ended result := by
  obtain ⟨best, constructed, latest, done, copy, snapshot, -, -, greatest⟩ :=
    run.accounts.deliversBest.delivered result stage
  refine ⟨?_, stage, ?_, ⟨best, latest, copy, snapshot⟩, ⟨constructed, scores, done, run, greatest⟩⟩
  · simp only [Solver.phase, stage]
  · rw [copy]
    rfl

theorem Equipped.solve_ends {timetable : Timetable} {config : Config} {problem : Problem}
    {warnings : List WorkloadWarning} (equipped : Equipped Source timetable config)
    (placer : ExactPlacer) (clock : Clock) (source : Source)
    (assembled : problem.assemble config = .ok (timetable, warnings))
    (limited : LimitsMoves config.limits) :
    (∃ result ended, solve.run (ofTimetableWith placer timetable config clock source) =
        .ok result ended ∧
      Delivers (ofTimetableWith placer timetable config clock source) ended result ∧
      ∀ fault, ¬ Overflows (ofTimetableWith placer timetable config clock source) fault) ∨
    ∃ fault ended, solve.run (ofTimetableWith placer timetable config clock source) =
        .error fault ended ∧
      ∀ other, Overflows (ofTimetableWith placer timetable config clock source) other ↔
        other = fault := by
  obtain ⟨count, same, isOver⟩ := run_to_end_ends placer clock source assembled limited
  have begun : Run (ofTimetableWith placer timetable config clock source) []
    (ofTimetableWith placer timetable config clock source) := .start
  obtain ⟨scores, run⟩ := begun.iterate count
  rw [← same] at run
  have faults : ∀ fault, Overflows (ofTimetableWith placer timetable config clock source) fault ↔
      ∃ phase, (ofTimetableWith placer timetable config clock source).runToEnd.stage =
        .failed phase fault := by
    intro fault
    rw [same] at isOver ⊢
    rw [failed_iff_comes_to isOver, equipped.fails_iff_overflows]
  unfold Solver.isOver at isOver
  split at isOver
  · rename_i result stage
    left
    refine ⟨result, _, solve_of_terminated rfl stage, run.delivers stage, ?_⟩
    intro fault overflows
    obtain ⟨phase, failed⟩ := (faults fault).1 overflows
    rw [stage] at failed
    cases failed
  · rename_i phase fault stage
    right
    refine ⟨fault, _, solve_of_failed rfl stage, ?_⟩
    intro other
    rw [faults other, stage]
    constructor
    · rintro ⟨otherPhase, same⟩
      exact (SolveStage.failed.inj same).2.symm
    · rintro rfl
      exact ⟨phase, rfl⟩
  · cases isOver

theorem equipped_of_read {document settings : Json} {problem : Problem} {config : Config}
    {timetable : Timetable} {warnings : List WorkloadWarning}
    (accepted : Problem.read document = .ok problem)
    (configured : Config.read settings = .ok config)
    (assembled : problem.assemble config = .ok (timetable, warnings))
    (inexhaustible : Inexhaustible Source) : Equipped Source timetable config where
  inexhaustible := inexhaustible
  history := (Config.valid_of_read configured).acceptor.history
  working := Problem.working_of_assembled assembled
  slots := Problem.slots_of_assembled (Problem.valid_of_read accepted) assembled

/-- A solve of an accepted snapshot with accepted settings that limit its moves delivers the best that
it has come by, unless a number is too great for it; then it fails by that number. -/
theorem solve_delivers_unless_overflows {document settings : Json} {problem : Problem}
    {config : Config} {timetable : Timetable} {warnings : List WorkloadWarning}
    (accepted : Problem.read document = .ok problem)
    (configured : Config.read settings = .ok config)
    (assembled : problem.assemble config = .ok (timetable, warnings))
    (limited : LimitsMoves config.limits) (inexhaustible : Inexhaustible Source)
    (placer : ExactPlacer) (clock : Clock) (source : Source) :
    ((∃ result ended, solve.run (ofTimetableWith placer timetable config clock source) =
          .ok result ended ∧
        Delivers (ofTimetableWith placer timetable config clock source) ended result) ↔
      ∀ fault, ¬ Overflows (ofTimetableWith placer timetable config clock source) fault) ∧
    ∀ fault, (∃ ended, solve.run (ofTimetableWith placer timetable config clock source) =
        .error fault ended) ↔
      Overflows (ofTimetableWith placer timetable config clock source) fault := by
  have equipped := equipped_of_read accepted configured assembled inexhaustible
  rcases equipped.solve_ends placer clock source assembled limited with
    ⟨result, ended, solved, delivers, none⟩ | ⟨fault, ended, failed, faults⟩
  · refine ⟨⟨fun _ => none, fun _ => ⟨result, ended, solved, delivers⟩⟩, ?_⟩
    intro fault
    constructor
    · rintro ⟨other, failed⟩
      rw [solved] at failed
      cases failed
    · exact fun overflows => absurd overflows (none fault)
  · refine ⟨⟨?_, fun none => absurd ((faults fault).2 rfl) (none fault)⟩, ?_⟩
    · rintro ⟨result, after, solved, -⟩
      rw [failed] at solved
      cases solved
    · intro other
      rw [faults other]
      constructor
      · rintro ⟨after, same⟩
        rw [failed] at same
        exact (EStateM.Result.error.inj same).1.symm
      · rintro rfl
        exact ⟨ended, failed⟩

/-- Nothing is too great for a first fit with an acceptor that does not anneal and has a short history. -/
theorem steady_never_overflows {placer : ExactPlacer} {timetable : Timetable} {config : Config}
    {clock : Clock} {source : Source} (firstFit : config.construction = .firstFit)
    (steady : config.acceptor.kind ≠ .simulatedAnnealing) (short : ¬ HistoryTooLong config.acceptor)
    (fault : PlanningFault) : ¬ Overflows (ofTimetableWith placer timetable config clock source) fault := by
  intro overflows
  cases overflows with
  | seed refused => exact nomatch firstFit.symm.trans refused.exact
  | history _ tooLong => exact short tooLong
  | loss _ _ overflows =>
      obtain ⟨_, _, tooGreat⟩ := overflows
      exact steady tooGreat.kind

end Solver

namespace MusicMorning

open Solver

variable {Source : Type} [RandomSource Source]

theorem config_never_overflows (clock : Clock) (source : Source) (fault : PlanningFault) :
    ¬ Overflows (ofTimetable timetable config clock source) fault :=
  steady_never_overflows rfl (by decide) (fun tooLong => absurd tooLong.tooLong (by decide)) fault

theorem comes_to_document (inexhaustible : Inexhaustible Source) (clock : Clock) (source : Source) :
    ∃ scores result solution, ∃ ended : Solver Source, Run (ofTimetable timetable config clock source) scores ended ∧
      ended.stage = .terminated result ∧ result.solution config = .ok solution := by
  obtain ⟨warnings, assembled⟩ := config_assembles
  have equipped : Equipped Source timetable config :=
    ⟨inexhaustible, by decide, rfl, fun _ => List.cons_ne_nil _ _⟩
  rcases equipped.solve_ends PlacementModel.placer clock source assembled (.inl rfl) with
    ⟨result, ended, solved, -, -⟩ | ⟨fault, ended, -, faults⟩
  · obtain ⟨terminated, scores, run⟩ := run_of_solve solved
    obtain ⟨within, -, recorded⟩ := run.resolved assembled (.inl terminated)
    obtain ⟨solution, extracted⟩ := recorded.document.2 (within.writable Weights.standard_moderate (by decide))
    exact ⟨scores, result, solution, ended, run, terminated, extracted⟩
  · exact absurd ((faults fault).2 rfl) (config_never_overflows clock source fault)

def settingsDocument : Json :=
  .obj [("termination", .obj [("time_limit_seconds", .null), ("unimproved_move_limit", .null),
      ("move_limit", .int 3)]),
    ("acceptor", .obj [("type", .str "late_acceptance"), ("late_acceptance_size", .int 3)])]

theorem settings_read : Config.read settingsDocument = .ok config := rfl

theorem best_is_delivered : ∃ warnings result ended,
    Problem.read problem.write = .ok problem ∧ Config.read settingsDocument = .ok config ∧
      problem.assemble config = .ok (timetable, warnings) ∧ LimitsMoves config.limits ∧ Inexhaustible Wheel ∧
      solve.run (start config) = .ok result ended ∧ result.score = ⟨0, -2⟩ ∧ result.accepted = 2 ∧
      Delivers (start config) ended result := by
  obtain ⟨warnings, assembled⟩ := config_assembles
  have limited : LimitsMoves config.limits := .inl rfl
  have ends := solve_delivers_unless_overflows document_read settings_read assembled limited
    Wheel.inexhaustible PlacementModel.placer .still draws
  obtain ⟨result, ended, solved, delivers⟩ := ends.1.2 (config_never_overflows .still draws)
  obtain ⟨seen, returned, -, score, -, accepted⟩ := solves
  obtain ⟨rfl, rfl⟩ := EStateM.Result.ok.inj (returned.symm.trans solved)
  exact ⟨warnings, _, _, document_read, settings_read, assembled, limited, Wheel.inexhaustible, solved, score,
    accepted, delivers⟩

end MusicMorning

namespace Solver

section TwoRooms

def twoRoomsDocument : Json :=
  .obj [("term_id", .str "T"),
    ("time_slots", .arr
      [.obj [("id", .str "first"), ("day_of_week", .int 0), ("period", .int 1)]]),
    ("rooms", .arr
      [.obj [("id", .str "hall"), ("capacity", .int 30)],
        .obj [("id", .str "closet"), ("capacity", .int 5)]]),
    ("subjects", .arr [.obj [("id", .str "math"), ("name", .str "Mathematics")]]),
    ("school_classes", .arr
      [.obj [("id", .str "5a"), ("name", .str "5a"), ("grade_level", .int 5),
          ("student_count", .int 28)]]),
    ("teachers", .arr [.obj [("id", .str "meier"), ("name", .str "Meier")]]),
    ("qualifications", .arr
      [.obj [("teacher_id", .str "meier"), ("subject_id", .str "math"),
        ("can_teach_grades", .arr [.int 5])]]),
    ("requirements", .arr
      [.obj [("id", .str "r1"), ("school_class_id", .str "5a"), ("subject_id", .str "math"),
          ("weekly_hours", .int 1)]])]

def twoRooms : Problem where
  term := "T"
  slots := [⟨"first", 0, 1, none, none, false⟩]
  rooms := [⟨"hall", none, some 30, [], true⟩, ⟨"closet", none, some 5, [], true⟩]
  subjects := [⟨"math", "Mathematics", none⟩]
  classes := [⟨"5a", "5a", 5, some 28, none, true⟩]
  teachers := [⟨"meier", "Meier", none, 28, true⟩]
  qualifications := [⟨"meier", "math", .primary, some [5], none⟩]
  availabilities := []
  requirements := [⟨some "r1", "5a", "math", 1, .every, []⟩]

set_option maxRecDepth 10000 in
theorem two_rooms_read : Problem.read twoRoomsDocument = .ok twoRooms := by decide +kernel

def boundlessSettings : Json :=
  .obj [("termination", .obj [("time_limit_seconds", .null), ("unimproved_move_limit", .null),
      ("move_limit", .int 2)]),
    ("acceptor", .obj [("type", .str "simulated_annealing"),
      ("hard_weight", .int (10 ^ 200 * 10 ^ 200))])]

def boundless : Config :=
  { Config.standard with
    limits := ⟨none, none, some 2⟩
    acceptor := { AcceptorSettings.standard with
      kind := .simulatedAnnealing
      hardWeight := 10 ^ 200 * 10 ^ 200 } }

theorem boundless_read : Config.read boundlessSettings = .ok boundless := by rfl

def twoRoomsTimetable : Timetable :=
  twoRooms.timetableOf (Problem.assembledLessons (twoRooms.lessonOutcomes false))

set_option maxRecDepth 10000 in
theorem two_rooms_assemble :
    ∃ warnings, twoRooms.assemble boundless = .ok (twoRoomsTimetable, warnings) := by
  have faultless : twoRooms.assemblyFaults (twoRooms.lessonOutcomes false) = [] := by decide +kernel
  exact ⟨_, Problem.assemble_of_faultless faultless⟩

/-- The draws of a round for the first room and of one for the second. -/
def bothRooms : Wheel := ⟨[0, 2, 0, 0, 2, 1], 0⟩

def twoRoomsFrom (assignment : Snapshot) : PlainSolve Wheel where
  base := twoRoomsTimetable
  config := boundless
  placer := PlacementModel.placer
  cancelled := false
  clock := Clock.still.read.2
  started := Clock.still.read.1
  published := [⟨twoRoomsTimetable.scoreOf boundless.weights assignment, assignment, 0⟩]
  stage := .constructed assignment bothRooms

def fault? (solve : PlainSolve Wheel) : Option PlanningFault :=
  match solve.stage with
  | .failed _ fault => some fault
  | _ => none

theorem stage_of_fault {solver : Solver Wheel} {fault : PlanningFault}
    (failed : fault? solver.plain = some fault) : ∃ phase, solver.stage = .failed phase fault := by
  cases stage : solver.stage with
  | failed phase other =>
      simp only [fault?, plain, stage] at failed
      obtain rfl := Option.some.inj failed
      exact ⟨phase, rfl⟩
  | _ => simp [fault?, plain, stage] at failed

set_option maxRecDepth 10000 in
theorem two_rooms_from_any : ∀ assignment ∈ twoRoomsTimetable.assignments,
    fault? ((twoRoomsFrom assignment).after [.step, .step, .step]) = some .beyondNumbers := by
  decide +kernel

theorem two_rooms_fail : ∃ count phase,
    (advance^[count] (ofTimetable twoRoomsTimetable boundless .still bothRooms)).stage =
      .failed phase .beyondNumbers := by
  obtain ⟨warnings, assembled⟩ := two_rooms_assemble
  have completable : ∀ lesson ∈ twoRoomsTimetable.lessons,
      lesson.Completable twoRoomsTimetable.slots :=
    fun lesson listed => (Problem.completable_of_mem_assembled assembled listed).1
  have slots := Problem.slots_of_assembled (Problem.valid_of_read two_rooms_read) assembled
  have taken : ¬ SeedRefused boundless twoRoomsTimetable := fun refused => nomatch refused.exact
  obtain ⟨director, done⟩ := construct_of_seed_taken PlacementModel.placer rfl slots taken
  have tracks := tracks_of_construct done
  -- Either room may have been chosen, but the second round leaves the first room in any case.
  have member := tracks.arranges.mem_assignments (in_range_of_construct done completable)
  let start := ofTimetable twoRoomsTimetable boundless .still bothRooms
  have run : Run start [] start := .start
  have begun : start.advance.plain = twoRoomsFrom director.timetable.snapshot := by
    rw [advance_plain run.accounts rfl]
    simp only [start, PlainSolve.advance, plain, ofTimetable, ofTimetableWith, done]
    rfl
  have followed : (start.advance.after [.step, .step, .step]).plain =
      start.advance.plain.after [.step, .step, .step] :=
    after_plain run.advance rfl _
  have failed := two_rooms_from_any _ member
  rw [← begun, ← followed] at failed
  change fault? (advance^[4] start).plain = some .beyondNumbers at failed
  obtain ⟨phase, stage⟩ := stage_of_fault failed
  exact ⟨4, phase, stage⟩

theorem two_rooms_overflow : ∃ timetable warnings, ∃ ended : Solver Wheel,
    Problem.read twoRoomsDocument = .ok twoRooms ∧ Config.read boundlessSettings = .ok boundless ∧
      twoRooms.assemble boundless = .ok (timetable, warnings) ∧ LimitsMoves boundless.limits ∧
      Inexhaustible Wheel ∧
      solve.run (ofTimetable timetable boundless .still bothRooms) = .error .beyondNumbers ended := by
  obtain ⟨warnings, assembled⟩ := two_rooms_assemble
  have limited : LimitsMoves boundless.limits := .inl rfl
  have equipped := equipped_of_read two_rooms_read boundless_read assembled Wheel.inexhaustible
  have overflows := (equipped.fails_iff_overflows .beyondNumbers).1 two_rooms_fail
  refine ⟨twoRoomsTimetable, warnings, ?_⟩
  rcases equipped.solve_ends PlacementModel.placer .still bothRooms assembled limited with
    ⟨_, _, -, -, none⟩ | ⟨fault, ended, failed, faults⟩
  · exact absurd overflows (none .beyondNumbers)
  · obtain rfl := (faults _).1 overflows
    exact ⟨ended, two_rooms_read, boundless_read, assembled, limited, Wheel.inexhaustible, failed⟩

end TwoRooms

end Solver

end SchoolTimetable
