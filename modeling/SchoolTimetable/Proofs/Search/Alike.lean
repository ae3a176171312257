import SchoolTimetable.Proofs.Search.Refinement
import SchoolTimetable.Proofs.Search.Endings

/-!
Solves that go alike. What a solve draws, tries and publishes depends on its timetable, on what placed
the lessons at first, on its acceptor and on its source. The clock and the limits only say when it stops,
so two solves that agree on the former go on together for as long as neither of them stops, and if both
stop for the same reason they end with the same result, except for the time that it took.
-/

namespace SchoolTimetable

def SolveResult.timeless (result : SolveResult) : SolveResult := { result with elapsed := 0 }

inductive SolveStage.Like {Source : Type} : SolveStage Source → SolveStage Source → Prop
  | same (stage : SolveStage Source) : Like stage stage
  | terminated {first second : SolveResult} (same : first.timeless = second.timeless) :
      Like (.terminated first) (.terminated second)

namespace Solver

variable {Source : Type}

/-- Two solves that have come to the same, each in its own time and whatever their settings are. -/
structure Alike (first second : Solver Source) : Prop where
  base : first.base = second.base
  published : first.published = second.published
  stage : first.stage.Like second.stage

namespace Alike

variable {first second third : Solver Source}

theorem refl (solver : Solver Source) : Alike solver solver := ⟨rfl, rfl, .same _⟩

theorem watch (alike : Alike first second) (clock other : Clock) :
    Alike { first with clock := clock } { second with clock := other } :=
  ⟨alike.base, alike.published, alike.stage⟩

theorem cancel (alike : Alike first second) : Alike first.cancel second.cancel :=
  ⟨alike.base, alike.published, alike.stage⟩

theorem searching (alike : Alike first second) {search : LocalSearch Source}
    (stage : first.stage = .searching search) : second.stage = .searching search := by
  have like := alike.stage
  rw [stage] at like
  generalize second.stage = other at like
  cases like
  rfl

theorem failed (alike : Alike first second) {phase : SolvePhase} {fault : PlanningFault}
    (stage : first.stage = .failed phase fault) : second.stage = .failed phase fault := by
  have like := alike.stage
  rw [stage] at like
  generalize second.stage = other at like
  cases like
  rfl

theorem terminated (alike : Alike first second) {result : SolveResult}
    (stage : first.stage = .terminated result) :
    ∃ other, second.stage = .terminated other ∧ result.timeless = other.timeless := by
  have like := alike.stage
  rw [stage] at like
  generalize second.stage = reached at like
  cases like with
  | same => exact ⟨result, rfl, rfl⟩
  | terminated same => exact ⟨_, rfl, same⟩

theorem phase (alike : Alike first second) : first.phase = second.phase := by
  have like := alike.stage
  unfold Solver.phase
  generalize first.stage = stage at like ⊢
  generalize second.stage = other at like ⊢
  cases like <;> rfl

theorem is_over (alike : Alike first second) : first.isOver = second.isOver := by
  have like := alike.stage
  unfold Solver.isOver
  generalize first.stage = stage at like ⊢
  generalize second.stage = other at like ⊢
  cases like <;> rfl

theorem finish (alike : Alike first second) (search : LocalSearch Source) (reason : StopReason) :
    Alike (first.finish search reason) (second.finish search reason) := by
  unfold Solver.finish
  cases search.director.timetable.restore search.best.snapshot with
  | error fault => exact ⟨alike.base, alike.published, .same _⟩
  | ok restored =>
      refine ⟨alike.base, alike.published, .terminated ?_⟩
      simp only [SolveResult.timeless, constructionScore?, alike.published]

variable [RandomSource Source]

theorem searchOn (alike : Alike first second) (search : LocalSearch Source) :
    Alike (first.searchOn search) (second.searchOn search) := by
  unfold Solver.searchOn
  cases search.round with
  | error fault => exact ⟨alike.base, alike.published, .same _⟩
  | ok next =>
      refine ⟨alike.base, ?_, .same _⟩
      dsimp only
      rw [alike.published]

/-- Two solves that are alike take the same step if they construct the same, have the same acceptor and
do not disagree on whether to stop. -/
theorem advance (alike : Alike first second)
    (constructs : construct first.placer first.config first.base =
      construct second.placer second.config second.base)
    (acceptor : first.config.acceptor = second.config.acceptor)
    (agree : ∀ search, first.stage = .searching search →
      (first.stopReason search).1 = (second.stopReason search).1) :
    Alike first.advance second.advance := by
  have like := alike.stage
  unfold Solver.advance
  generalize firstStage : first.stage = stage at like
  generalize secondStage : second.stage = other at like
  cases like with
  | terminated same =>
      refine ⟨alike.base, alike.published, ?_⟩
      rw [firstStage, secondStage]
      exact .terminated same
  | same =>
      cases stage with
      | idle source =>
          dsimp only
          rw [constructs]
          cases construct second.placer second.config second.base with
          | error fault => exact ⟨alike.base, alike.published, .same _⟩
          | ok director => exact ⟨alike.base, rfl, .same _⟩
      | constructed director source =>
          dsimp only
          rw [acceptor]
          cases LocalSearch.start second.config.acceptor director source with
          | error fault => exact ⟨alike.base, alike.published, .same _⟩
          | ok search => exact ⟨alike.base, alike.published, .same _⟩
      | searching search =>
          dsimp only
          rw [agree search firstStage]
          have read := alike.watch (first.stopReason search).2 (second.stopReason search).2
          cases (second.stopReason search).1 with
          | some reason => exact read.finish search reason
          | none => exact read.searchOn search
      | terminated result => exact alike
      | failed phase fault => exact alike

end Alike

theorem stop_reason_untimed {solver : Solver Source} (untimed : solver.config.limits.seconds = none)
    (search : LocalSearch Source) : (solver.stopReason search).1 =
      if solver.cancelled then some .cancelled
      else if isReached solver.config.limits.moves search.evaluated then some .moveLimit
      else if isReached solver.config.limits.unimprovedMoves search.unimproved then
        some .unimprovedLimit
      else none := by
  have notLate : solver.isLate = (false, solver.clock) := by
    unfold isLate
    rw [untimed]
  unfold stopReason
  rw [notLate]
  by_cases cancelled : solver.cancelled = true
  · rw [if_pos cancelled, if_pos cancelled]
  · rw [if_neg cancelled, if_neg cancelled]
    dsimp only
    rw [if_neg (by decide)]
    split
    · rfl
    · split <;> rfl

theorem ended_of_over {solver : Solver Source} (isOver : solver.isOver = true) :
    (∃ result, solver.stage = .terminated result) ∨
      ∃ phase fault, solver.stage = .failed phase fault := by
  unfold Solver.isOver at isOver
  split at isOver
  · rename_i result stage
    exact .inl ⟨result, stage⟩
  · rename_i phase fault stage
    exact .inr ⟨phase, fault, stage⟩
  · cases isOver

theorem finish_is_over (solver : Solver Source) (search : LocalSearch Source) (reason : StopReason) :
    (solver.finish search reason).isOver = true ∧
      (solver.finish search reason).published = solver.published := by
  unfold finish
  cases search.director.timetable.restore search.best.snapshot <;> exact ⟨rfl, rfl⟩

/-- What a solve was given is the same, and so is whether it was cancelled. -/
structure KeepsSettings (before after : Solver Source) : Prop where
  base : after.base = before.base
  config : after.config = before.config
  placer : after.placer = before.placer
  cancelled : after.cancelled = before.cancelled

variable [RandomSource Source]

theorem steps_of_solve {start ended : Solver Source} {result : SolveResult}
    (solved : solve.run start = .ok result ended) :
    ∃ count, ended = advance^[count] start ∧ ended.stage = .terminated result := by
  obtain ⟨terminated, rfl⟩ := ended_of_solve solved
  obtain ⟨count, same⟩ := steps_of_advance_while terminated
  exact ⟨count, same.trans (after_steps start count), terminated⟩

theorem advance_keeps_settings (solver : Solver Source) : solver.KeepsSettings solver.advance := by
  have advances := solver.advances
  generalize solver.advance = next at advances ⊢
  cases advances with
  | stop =>
      unfold finish
      split <;> exact ⟨rfl, rfl, rfl, rfl⟩
  | search =>
      unfold searchOn
      split <;> exact ⟨rfl, rfl, rfl, rfl⟩
  | _ => exact ⟨rfl, rfl, rfl, rfl⟩

theorem iterate_cancelled (solver : Solver Source) (count : Nat) :
    (advance^[count] solver).cancelled = solver.cancelled := by
  induction count with
  | zero => rfl
  | succ count ih =>
      rw [Function.iterate_succ_apply', (advance_keeps_settings _).cancelled]
      exact ih

theorem run_of_steps (start : Solver Source) (count : Nat) :
    ∃ scores, Run start scores (advance^[count] start) := by
  have begun : Run start [] start := .start
  exact begun.iterate count

/-- Solves of one timetable take the same step if they were to construct the same, with the same acceptor
in their search, and do not disagree on whether to stop. -/
theorem Alike.advance_together {placer : ExactPlacer} {timetable : Timetable} {config other : Config}
    {scores others : List Score} {first second : Solver Source} (alike : Alike first second)
    (firstAccounts : Accounts placer timetable config scores first)
    (secondAccounts : Accounts placer timetable other others second)
    (constructs : construct placer config timetable = construct placer other timetable)
    (acceptor : config.acceptor = other.acceptor)
    (agree : ∀ search, first.stage = .searching search →
      (first.stopReason search).1 = (second.stopReason search).1) :
    Alike first.advance second.advance := by
  apply alike.advance _ _ agree
  · rw [firstAccounts.samePlacer, firstAccounts.sameConfig, firstAccounts.sameBase,
      secondAccounts.samePlacer, secondAccounts.sameConfig, secondAccounts.sameBase, constructs]
  · rw [firstAccounts.sameConfig, secondAccounts.sameConfig, acceptor]

end Solver

end SchoolTimetable
