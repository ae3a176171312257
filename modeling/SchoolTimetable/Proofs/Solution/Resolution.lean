import SchoolTimetable.Proofs.Search.Delivery
import SchoolTimetable.Proofs.Search.Refinement
import SchoolTimetable.Proofs.Search.Success
import SchoolTimetable.Proofs.Solution.Documents
import SchoolTimetable.Proofs.Timetable.Assembled

/-!
Solutions lack nothing. From construction on all placements that a solve holds or has published are in
range, so what it reports has a record for every lesson, whenever it is asked and wherever it stops.
-/

namespace SchoolTimetable

namespace Solver

variable {Source : Type}

structure KeepsRanges (timetable : Timetable) (solver : Solver Source) : Prop where
  published : ∀ best ∈ solver.published, (reported timetable best).InRange
  constructed : ∀ director source, solver.stage = .constructed director source →
    director.timetable.InRange
  searching : ∀ search, solver.stage = .searching search → search.InRange timetable

variable {placer : ExactPlacer} {timetable : Timetable} {config : Config} {scores : List Score}
  {solver : Solver Source}

theorem reported_in_range {director : Director} {weights : Weights} {best : Best}
    (tracks : director.Tracks timetable weights) (inRange : director.timetable.InRange)
    (same : best.snapshot = director.timetable.snapshot) : (reported timetable best).InRange := by
  change ∀ lesson ∈ timetable.lessonsWith best.snapshot, lesson.InRange timetable.slots
  rw [same, tracks.arranges.lessons_with_snapshot, ← tracks.arranges.slots]
  exact inRange

namespace KeepsRanges

theorem of_published (published : ∀ best ∈ solver.published, (reported timetable best).InRange)
    (ended : solver.isOver) : KeepsRanges timetable solver := by
  refine ⟨published, ?_, ?_⟩
  · intro director source stage
    simp [isOver, stage] at ended
  · intro search stage
    simp [isOver, stage] at ended

theorem finish {search : LocalSearch Source} {reason : StopReason}
    (published : ∀ best ∈ solver.published, (reported timetable best).InRange) :
    KeepsRanges timetable (solver.finish search reason) := by
  unfold Solver.finish
  split
  · exact of_published published rfl
  · exact of_published published rfl

variable [RandomSource Source]

theorem searchOn {search : LocalSearch Source}
    (published : ∀ best ∈ solver.published, (reported timetable best).InRange)
    (inRange : search.InRange timetable) (sound : search.Sound timetable config.weights) :
    KeepsRanges timetable (solver.searchOn search) := by
  unfold Solver.searchOn
  cases round : search.round with
  | error fault => exact of_published published rfl
  | ok next =>
      have nextInRange := LocalSearch.in_range_round inRange sound round
      refine ⟨?_, fun _ _ same => (nomatch same), ?_⟩
      · intro best listed
        dsimp only at listed
        split at listed
        · rcases List.mem_cons.1 listed with rfl | earlier
          · exact nextInRange.best
          · exact published best earlier
        · exact published best listed
      · intro later same
        obtain rfl := SolveStage.searching.inj same
        exact nextInRange

theorem advance (keeps : KeepsRanges timetable solver)
    (accounts : Accounts placer timetable config scores solver)
    (completable : ∀ lesson ∈ timetable.lessons, lesson.Completable timetable.slots) :
    KeepsRanges timetable solver.advance := by
  have advances := solver.advances
  generalize solver.advance = next at advances ⊢
  cases advances with
  | construct stage done =>
      rw [accounts.samePlacer, accounts.sameConfig, accounts.sameBase] at done
      have inRange := in_range_of_construct done completable
      refine ⟨?_, ?_, fun _ same => (nomatch same)⟩
      · intro best listed
        obtain rfl := List.mem_singleton.1 listed
        exact reported_in_range (tracks_of_construct done) inRange rfl
      · intro other otherSource same
        obtain ⟨rfl, -⟩ := SolveStage.constructed.inj same
        exact inRange
  | constructFailed stage failed => exact of_published keeps.published rfl
  | @start director source search stage started =>
      have tracks := tracks_of_construct (accounts.constructed stage)
      have inRange := keeps.constructed director source stage
      obtain ⟨-, working, best⟩ := LocalSearch.sound_start tracks started
      refine ⟨keeps.published, fun _ _ same => (nomatch same), ?_⟩
      intro other same
      obtain rfl := SolveStage.searching.inj same
      refine ⟨by rwa [working], ?_⟩
      exact reported_in_range tracks inRange (by rw [best])
  | startFailed stage failed => exact of_published keeps.published rfl
  | stop stage stopped => exact finish keeps.published
  | @search search stage continues =>
      exact searchOn keeps.published (keeps.searching search stage) (accounts.sound stage).1
  | rest isOver => exact keeps

end KeepsRanges

variable [RandomSource Source]

theorem Run.keepsRanges {clock : Clock} {source : Source}
    (run : Run (ofTimetableWith placer timetable config clock source) scores solver)
    (completable : ∀ lesson ∈ timetable.lessons, lesson.Completable timetable.slots) :
    KeepsRanges timetable solver := by
  induction run with
  | start =>
      exact ⟨fun _ listed => (nomatch listed), fun _ _ same => (nomatch same),
        fun _ same => (nomatch same)⟩
  | advance run ih => exact ih.advance run.accounts completable
  | cancel _ ih => exact ⟨ih.published, ih.constructed, ih.searching⟩
  | watch _ clock ih => exact ⟨ih.published, ih.constructed, ih.searching⟩

end Solver

/-- A timetable has the lessons of another, all of them in their ranges there. -/
structure Timetable.PlacesWithin (timetable base : Timetable) : Prop where
  slots : timetable.slots = base.slots
  lessons : timetable.lessons.map Lesson.unplaced = base.lessons.map Lesson.unplaced
  inRange : timetable.InRange

theorem Timetable.PlacesWithin.original {timetable base : Timetable}
    (within : timetable.PlacesWithin base) {lesson : Lesson} (listed : lesson ∈ timetable.lessons) :
    ∃ original ∈ base.lessons, original.placed lesson.placement = lesson := by
  have unplaced : lesson.unplaced ∈ base.lessons.map Lesson.unplaced := by
    rw [← within.lessons]
    exact List.mem_map_of_mem listed
  obtain ⟨original, member, same⟩ := List.mem_map.1 unplaced
  exact ⟨original, member, Lesson.placed_of_unplaced_eq same.symm⟩

/-- On a grid of sixteen periods a day only an immoderate weight makes a score too long to be written. -/
theorem Timetable.PlacesWithin.writable {timetable base : Timetable} {weights : Weights}
    (within : timetable.PlacesWithin base) (moderate : weights.Moderate)
    (onGrid : ∀ slot ∈ base.slots, 1 ≤ slot.period ∧ slot.period ≤ 16) : Writable weights timetable.lessons := by
  refine writable_of_moderate moderate fun lesson listed slot seated => ?_
  obtain ⟨own, known, same⟩ := (within.inRange lesson listed).slot
  obtain rfl := Option.some.inj (same.symm.trans seated)
  rw [within.slots] at known
  exact onGrid own known

theorem Lesson.gap_of_in_range {slots : List TimeSlot} {lesson : Lesson} {allowUnresourced : Bool}
    (inRange : lesson.InRange slots) (housed : lesson.candidateRooms ≠ [] ∨ allowUnresourced) :
    lesson.gap? allowUnresourced = none := by
  obtain ⟨slot, -, hasSlot⟩ := inRange.slot
  obtain ⟨teacher, -, hasTeacher⟩ := inRange.teacher
  have hasRoom : allowUnresourced = true ∨ lesson.room.isNone = false := by
    rcases housed with someRooms | allowed
    · right
      rw [Option.isNone_eq_false_iff, Option.isSome_iff_ne_none]
      exact fun roomless => someRooms (inRange.roomless.1 roomless)
    · exact .inl allowed
  unfold gap?
  rcases hasRoom with allowed | roomed
  · simp [hasSlot, allowed]
  · simp [hasSlot, hasTeacher, roomed]

def recordsOf (term : String) (lessons : List Lesson) : List LessonRecord :=
  LessonRecord.inOrder (lessons.filterMap fun lesson => lesson.slot.map (lesson.recordAt term))

theorem Timetable.records_of_in_range {timetable : Timetable} {allowUnresourced : Bool}
    (inRange : timetable.InRange)
    (housed : ∀ lesson ∈ timetable.lessons, lesson.candidateRooms ≠ [] ∨ allowUnresourced) :
    timetable.records allowUnresourced = .ok (recordsOf timetable.term timetable.lessons) := by
  have noGaps : timetable.lessons.filterMap (Lesson.gap? allowUnresourced) = [] := by
    rw [List.filterMap_eq_nil_iff]
    intro lesson listed
    exact Lesson.gap_of_in_range (inRange lesson listed) (housed lesson listed)
  unfold records
  rw [noGaps]
  rfl

namespace Solver

variable {Source : Type} {timetable : Timetable} {config : Config} {problem : Problem}
  {warnings : List WorkloadWarning}

theorem reported_places_within {weights : Weights} {constructed : Director} {scores : List Score}
    {published : List Best} {best : Best}
    (log : PublishedFrom timetable weights constructed scores published) (listed : best ∈ published)
    (inRange : (reported timetable best).InRange) : (reported timetable best).PlacesWithin timetable :=
  ⟨rfl, timetable.unplaced_lessons_with (log.fits best listed), inRange⟩

variable [RandomSource Source]

/-- Whatever a solve of an assembled timetable reports is in its ranges and has a record for every lesson,
and its score is that of a full evaluation. -/
theorem Run.resolved {placer : ExactPlacer} {clock : Clock} {source : Source} {scores : List Score}
    {solver : Solver Source} {result : SolveResult}
    (assembled : problem.assemble config = .ok (timetable, warnings))
    (run : Run (ofTimetableWith placer timetable config clock source) scores solver)
    (reports : solver.Reports result) :
    result.timetable.PlacesWithin timetable ∧
      result.timetable.fullScore config.weights = result.score ∧
      result.Recorded config (recordsOf result.timetable.term result.timetable.lessons) := by
  have completable : ∀ lesson ∈ timetable.lessons, lesson.Completable timetable.slots :=
    fun lesson listed => (Problem.completable_of_mem_assembled assembled listed).1
  obtain ⟨constructed, log, best, listed, copy, score⟩ := run.accounts.of_reports reports
  have inRange := (run.keepsRanges completable).published best listed
  have within := reported_places_within log listed inRange
  have exact := (reported_full_score log listed).trans score.symm
  rw [← copy] at inRange within exact
  have housed : ∀ lesson ∈ result.timetable.lessons, lesson.candidateRooms ≠ [] ∨ config.allowUnresourced := by
    rw [copy]
    intro lesson listed
    obtain ⟨original, member, placement, rfl⟩ := Timetable.mem_lessons_with listed
    exact (Problem.completable_of_mem_assembled assembled member).2
  exact ⟨within, exact, SolveResult.recorded (Timetable.records_of_in_range inRange housed)⟩

/-- From construction on every lesson of an assembled timetable is in its ranges, in the search and in
all that is reported. Every report has a record for each lesson, so that only the length of a score can keep it from
being written. -/
theorem reports_are_resolved {placer : ExactPlacer} {clock : Clock} {source : Source}
    {scores : List Score} {solver : Solver Source}
    (assembled : problem.assemble config = .ok (timetable, warnings))
    (run : Run (ofTimetableWith placer timetable config clock source) scores solver) :
    (∀ search, solver.stage = .searching search →
      search.director.timetable.PlacesWithin timetable) ∧
    (∀ result, solver.stage = .terminated result →
      result.timetable.PlacesWithin timetable ∧ ∃ records, result.Recorded config records) ∧
    ∀ result after, solver.currentBest = .ok (some result, after) →
      result.timetable.PlacesWithin timetable ∧ ∃ records, result.Recorded config records := by
  have completable : ∀ lesson ∈ timetable.lessons, lesson.Completable timetable.slots :=
    fun lesson listed => (Problem.completable_of_mem_assembled assembled listed).1
  refine ⟨?_, ?_, ?_⟩
  · intro search stage
    have arranges := (run.accounts.sound stage).1.tracks.arranges
    exact ⟨arranges.slots, arranges.lessons, ((run.keepsRanges completable).searching search stage).working⟩
  · intro result stage
    obtain ⟨within, -, recorded⟩ := run.resolved assembled (.inl stage)
    exact ⟨within, _, recorded⟩
  · intro result after current
    obtain ⟨within, -, recorded⟩ := run.resolved assembled (.inr ⟨after, current⟩)
    exact ⟨within, _, recorded⟩

end Solver

namespace MusicMorning

open Solver

/-- In the middle of a solve with moves that are made and taken back, and at its end. -/
theorem all_lessons_are_recorded : ∃ warnings,
    problem.assemble config = .ok (timetable, warnings) ∧
    let solver := start config
    (∃ scores search result after, Run solver scores (solver.after (List.replicate 5 .step)) ∧
      (solver.after (List.replicate 5 .step)).stage = .searching search ∧
      search.director.timetable.PlacesWithin timetable ∧
      (solver.after (List.replicate 5 .step)).currentBest = .ok (some result, after) ∧
      result.timetable.PlacesWithin timetable ∧
      ∃ records, result.Recorded config records) ∧
    ∃ scores result, Run solver scores (solver.after toEnd) ∧
      (solver.after toEnd).stage = .terminated result ∧ result.evaluated = 3 ∧ result.accepted = 2 ∧
      result.timetable.PlacesWithin timetable ∧
      ∃ records, result.Recorded config records := by
  obtain ⟨warnings, assembled⟩ := config_assembles
  obtain ⟨scores, run⟩ := run_after config (List.replicate 5 .step)
  obtain ⟨others, toItsEnd⟩ := run_after config toEnd
  obtain ⟨search, stage, -⟩ := searching_of_view 4 (congrArg View.current (view_of_course 4 rfl))
  obtain ⟨best, after, current, -⟩ := run.accounts.current_best (run.accounts.sound stage).2
  obtain ⟨result, -, terminated, -, evaluated, accepted⟩ := solves
  obtain ⟨whileSearching, -, soFar⟩ := reports_are_resolved assembled run
  obtain ⟨-, inTheEnd, -⟩ := reports_are_resolved assembled toItsEnd
  obtain ⟨within, recorded⟩ := soFar best after current
  obtain ⟨withinAtEnd, recordedAtEnd⟩ := inTheEnd result terminated
  exact ⟨warnings, assembled,
    ⟨scores, search, best, after, run, stage, whileSearching search stage, current, within, recorded⟩,
    others, result, toItsEnd, terminated, evaluated, accepted, withinAtEnd, recordedAtEnd⟩

end MusicMorning

end SchoolTimetable
