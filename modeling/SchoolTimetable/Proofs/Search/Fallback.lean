import SchoolTimetable.Proofs.Search.Alike

/-!
What becomes of a solve that was to place all lessons at once and could not. Nothing has changed then, so
construction starts from the same lessons as a first fit, and from there on both solves go abreast: they
draw, try and publish the same, and they end alike.
-/

namespace SchoolTimetable

namespace Solver

variable {Source : Type}

/-- Two solves without a time limit that have come to the same and are bound to go on alike. -/
structure Abreast (first second : Solver Source) : Prop extends Alike first second where
  cancelled : first.cancelled = second.cancelled
  constructs : construct first.placer first.config first.base =
    construct second.placer second.config second.base
  acceptor : first.config.acceptor = second.config.acceptor
  limits : first.config.limits = second.config.limits
  untimed : first.config.limits.seconds = none

namespace Abreast

variable {first second : Solver Source}

theorem both_untimed (abreast : Abreast first second) : second.config.limits.seconds = none := by
  rw [← abreast.limits]
  exact abreast.untimed

theorem stop_reason (abreast : Abreast first second) (search : LocalSearch Source) :
    (first.stopReason search).1 = (second.stopReason search).1 := by
  rw [stop_reason_untimed abreast.untimed, stop_reason_untimed abreast.both_untimed, abreast.limits,
    abreast.cancelled]

variable [RandomSource Source]

theorem advance (abreast : Abreast first second) : Abreast first.advance second.advance := by
  have alike := abreast.toAlike.advance abreast.constructs abreast.acceptor
    fun search _ => abreast.stop_reason search
  have firstKeeps := first.advance_keeps_settings
  have secondKeeps := second.advance_keeps_settings
  refine ⟨alike, ?_, ?_, ?_, ?_, ?_⟩
  · rw [firstKeeps.cancelled, secondKeeps.cancelled, abreast.cancelled]
  · rw [firstKeeps.placer, firstKeeps.config, firstKeeps.base, secondKeeps.placer,
      secondKeeps.config, secondKeeps.base, abreast.constructs]
  · rw [firstKeeps.config, secondKeeps.config, abreast.acceptor]
  · rw [firstKeeps.config, secondKeeps.config, abreast.limits]
  · rw [firstKeeps.config]
    exact abreast.untimed

theorem meets (abreast : Abreast first second) (happening : Happening) :
    Abreast (first.meets happening) (second.meets happening) := by
  cases happening with
  | step => exact abreast.advance
  | cancel =>
      exact ⟨abreast.toAlike.cancel, rfl, abreast.constructs, abreast.acceptor, abreast.limits,
        abreast.untimed⟩
  | watch clock =>
      exact ⟨abreast.toAlike.watch clock clock, abreast.cancelled, abreast.constructs,
        abreast.acceptor, abreast.limits, abreast.untimed⟩

theorem after (abreast : Abreast first second) (history : List Happening) :
    Abreast (first.after history) (second.after history) := by
  induction history generalizing first second with
  | nil => exact abreast
  | cons happening rest ih => exact ih (abreast.meets happening)

omit [RandomSource Source] in
theorem step_bound (abreast : Abreast first second) : first.stepBound = second.stepBound := by
  unfold stepBound
  dsimp only
  rw [abreast.limits, abreast.base, abreast.both_untimed]
  cases second.config.limits.moves <;> cases second.config.limits.unimprovedMoves <;> rfl

theorem advance_while (abreast : Abreast first second) (steps : Nat) :
    Alike (advanceWhile (fun _ => true) steps first) (advanceWhile (fun _ => true) steps second) := by
  induction steps generalizing first second with
  | zero =>
      unfold advanceWhile
      rw [abreast.is_over]
      split
      · exact abreast.toAlike
      · refine ⟨abreast.base, abreast.published, ?_⟩
        rw [abreast.phase]
        exact .same _
  | succ steps ih =>
      unfold advanceWhile
      rw [abreast.is_over]
      split
      · exact abreast.toAlike
      · exact ih abreast.advance

theorem run_to_end (abreast : Abreast first second) : Alike first.runToEnd second.runToEnd := by
  unfold runToEnd
  rw [abreast.step_bound]
  exact abreast.advance_while _

end Abreast

section Unplaced

variable {placer : ExactPlacer} {timetable : Timetable} {config : Config} {status : ExactStatus}
  {next : Director}

/-- If nothing was placed at once, construction does what a first fit does. -/
theorem construct_of_unplaced
    (placed : (Director.ofTimetable timetable config.weights).placeExactlyBy placer config.seed =
      .ok (status, next))
    (unplaced : status ≠ .optimal) :
    construct placer { config with construction := .exact } timetable =
      construct placer { config with construction := .firstFit } timetable := by
  rcases Director.place_exactly_ok placed with ⟨-, rfl⟩ | ⟨optimal, -⟩
  · simp only [construct, placed, bind, Except.bind, pure, Except.pure]
  · exact absurd optimal unplaced

theorem abreast_of_unplaced
    (placed : (Director.ofTimetable timetable config.weights).placeExactlyBy placer config.seed =
      .ok (status, next))
    (unplaced : status ≠ .optimal) (untimed : config.limits.seconds = none) (clock other : Clock)
    (source : Source) :
    Abreast
      (ofTimetableWith placer timetable { config with construction := .exact } clock source)
      (ofTimetableWith placer timetable { config with construction := .firstFit } other source) where
  base := rfl
  published := rfl
  stage := .same _
  cancelled := rfl
  constructs := construct_of_unplaced placed unplaced
  acceptor := rfl
  limits := rfl
  untimed := untimed

end Unplaced

/-- Whole solves that end alike: with results that differ in nothing but their time, or by one fault. -/
inductive EndAlike : EStateM.Result PlanningFault (Solver Source) SolveResult →
    EStateM.Result PlanningFault (Solver Source) SolveResult → Prop
  | delivers {result other : SolveResult} {ended otherEnded : Solver Source}
      (same : result.timeless = other.timeless) (alike : Alike ended otherEnded) :
      EndAlike (.ok result ended) (.ok other otherEnded)
  | fails {fault : PlanningFault} {ended otherEnded : Solver Source}
      (alike : Alike ended otherEnded) : EndAlike (.error fault ended) (.error fault otherEnded)

variable [RandomSource Source]

theorem advance_while_over (steps : Nat) (solver : Solver Source) :
    (advanceWhile (fun _ => true) steps solver).isOver = true := by
  induction steps generalizing solver with
  | zero =>
      unfold advanceWhile
      split
      · rename_i ended
        simpa using ended
      · rfl
  | succ steps ih =>
      unfold advanceWhile
      split
      · rename_i ended
        simpa using ended
      · exact ih solver.advance

theorem Abreast.solves {first second : Solver Source} (abreast : Abreast first second)
    (idle : first.phase = .idle) : EndAlike (solve.run first) (solve.run second) := by
  have alike := abreast.run_to_end
  have otherIdle : second.phase = .idle := abreast.phase.symm.trans idle
  rcases ended_of_over (advance_while_over first.stepBound first) with
    ⟨result, stage⟩ | ⟨phase, fault, stage⟩
  · have stage : first.runToEnd.stage = .terminated result := stage
    rcases alike.terminated stage with ⟨other, otherStage, same⟩
    rw [solve_of_terminated idle stage, solve_of_terminated otherIdle otherStage]
    exact .delivers same alike
  · have stage : first.runToEnd.stage = .failed phase fault := stage
    rw [solve_of_failed idle stage, solve_of_failed otherIdle (alike.failed stage)]
    exact .fails alike

end Solver

end SchoolTimetable
