import SchoolTimetable.Proofs.Search.Alike

/-!
Solves with different limits on their moves. The one that may make fewer moves stops first, and until
then both have published the same. The other can only go on to publish more, each time something better,
so it never ends with a worse timetable.
-/

namespace SchoolTimetable

/-- A limit that is no further than another, where an absent one is further than any. -/
def LimitAtMost : Option Int → Option Int → Prop
  | _, none => True
  | some fewer, some more => fewer ≤ more
  | none, some _ => False

/-- Limits that allow no more moves than others, of any kind. -/
structure Limits.Within (fewer more : Limits) : Prop where
  moves : LimitAtMost fewer.moves more.moves
  unimprovedMoves : LimitAtMost fewer.unimprovedMoves more.unimprovedMoves

namespace Solver

theorem not_reached_of_at_most {fewer more : Option Int} {count : Nat} (atMost : LimitAtMost fewer more)
    (notYet : isReached fewer count = false) : isReached more count = false := by
  cases more with
  | none => rfl
  | some greater =>
      cases fewer with
      | none => exact atMost.elim
      | some smaller =>
          have below : ¬ smaller ≤ count := of_decide_eq_false notYet
          have atMost : smaller ≤ greater := atMost
          apply decide_eq_false
          omega

variable {Source : Type}

theorem goes_on_within {first second : Solver Source} {search : LocalSearch Source}
    (untimed : second.config.limits.seconds = none)
    (within : first.config.limits.Within second.config.limits) (kept : second.cancelled = false)
    (continues : (first.stopReason search).1 = none) : (second.stopReason search).1 = none := by
  obtain ⟨-, movesLeft, unimprovedLeft⟩ := open_of_continues continues
  rw [stop_reason_untimed untimed, kept, not_reached_of_at_most within.moves movesLeft,
    not_reached_of_at_most within.unimprovedMoves unimprovedLeft]
  rfl

variable [RandomSource Source]

theorem search_on_published (solver : Solver Source) (search : LocalSearch Source) :
    solver.published <:+ (solver.searchOn search).published := by
  unfold searchOn
  cases search.round with
  | error fault => exact List.suffix_rfl
  | ok next =>
      dsimp only
      split
      · exact List.suffix_cons _ _
      · exact List.suffix_rfl

/-- What was published stays so: nothing is published before construction has ended. -/
theorem Accounts.published_suffix {placer : ExactPlacer} {timetable : Timetable} {config : Config}
    {scores : List Score} {solver : Solver Source}
    (accounts : Accounts placer timetable config scores solver) :
    solver.published <:+ solver.advance.published := by
  have progress := accounts.progress
  have advances := solver.advances
  generalize solver.advance = next at advances ⊢
  cases advances with
  | construct stage =>
      rw [stage] at progress
      rcases progress with ⟨-, -, empty⟩ | ⟨_, _, _, impossible⟩
      · rw [empty]
        exact List.nil_suffix
      · exact impossible.elim
  | constructFailed => exact List.suffix_rfl
  | start => exact List.suffix_rfl
  | startFailed => exact List.suffix_rfl
  | stop =>
      rw [(finish_is_over _ _ _).2]
  | @search search =>
      exact search_on_published { solver with clock := (solver.stopReason search).2 } search
  | rest => exact List.suffix_rfl

variable {fewer more : Limits}

/-- After one more step of each the solve with fewer moves has not left the other, or it has stopped. -/
theorem Alike.advance_within {placer : ExactPlacer} {timetable : Timetable} {config : Config}
    {scores others : List Score} {first second : Solver Source} (alike : Alike first second)
    (firstAccounts : Accounts placer timetable { config with limits := fewer } scores first)
    (secondAccounts : Accounts placer timetable { config with limits := more } others second)
    (within : fewer.Within more) (untimed : more.seconds = none) (kept : second.cancelled = false) :
    Alike first.advance second.advance ∨
      first.advance.isOver = true ∧ first.advance.published <:+ second.advance.published := by
  by_cases stops : ∃ search reason, first.stage = .searching search ∧
      (first.stopReason search).1 = some reason
  · right
    rcases stops with ⟨search, reason, stage, stopped⟩
    have ended : first.advance =
        { first with clock := (first.stopReason search).2 }.finish search reason := by
      simp only [Solver.advance, stage, stopped]
    rw [ended]
    rcases finish_is_over { first with clock := (first.stopReason search).2 } search reason with
      ⟨isOver, same⟩
    refine ⟨isOver, ?_⟩
    rw [same, alike.published]
    exact secondAccounts.published_suffix
  · left
    apply alike.advance_together firstAccounts secondAccounts rfl rfl
    intro search stage
    cases reason : (first.stopReason search).1 with
    | some reason => exact absurd ⟨search, _, stage, reason⟩ stops
    | none =>
        symm
        apply goes_on_within _ _ kept reason
        · rw [secondAccounts.sameConfig]
          exact untimed
        · rw [firstAccounts.sameConfig, secondAccounts.sameConfig]
          exact within

/-- Step by step the solve with fewer moves is where the other is, or it is over and the other has
published all that it has published. -/
theorem alike_or_over (placer : ExactPlacer) (timetable : Timetable) (config : Config)
    (within : fewer.Within more) (untimed : more.seconds = none) (clock other : Clock)
    (source : Source) (count : Nat) :
    let first := advance^[count] (ofTimetableWith placer timetable { config with limits := fewer }
      clock source)
    let second := advance^[count] (ofTimetableWith placer timetable { config with limits := more }
      other source)
    Alike first second ∨ first.isOver = true ∧ first.published <:+ second.published := by
  induction count with
  | zero => exact .inl ⟨rfl, rfl, .same _⟩
  | succ count ih =>
      obtain ⟨scores, firstRun⟩ := run_of_steps (ofTimetableWith placer timetable
        { config with limits := fewer } clock source) count
      obtain ⟨others, secondRun⟩ := run_of_steps (ofTimetableWith placer timetable
        { config with limits := more } other source) count
      have kept := iterate_cancelled (ofTimetableWith placer timetable
        { config with limits := more } other source) count
      simp only [Function.iterate_succ_apply'] at ih ⊢
      rcases ih with alike | ⟨isOver, published⟩
      · exact alike.advance_within firstRun.accounts secondRun.accounts within untimed kept
      · -- The one that is over publishes nothing more, the other only adds to what it has.
        right
        rw [advance_of_over isOver]
        exact ⟨isOver, published.trans secondRun.accounts.published_suffix⟩

/-- A solve that may make more moves publishes all that one with fewer moves publishes, and perhaps more
after that. So what it ends with is no worse. -/
theorem more_moves_never_worse (placer : ExactPlacer) (timetable : Timetable) (config : Config)
    (within : fewer.Within more) (untimed : more.seconds = none) (clock other : Clock)
    (source : Source) {first second : SolveResult} {firstEnded secondEnded : Solver Source}
    (firstSolved : solve.run (ofTimetableWith placer timetable { config with limits := fewer } clock
      source) = .ok first firstEnded)
    (secondSolved : solve.run (ofTimetableWith placer timetable { config with limits := more } other
      source) = .ok second secondEnded) :
    firstEnded.published.reverse <+: secondEnded.published.reverse ∧ first.score ≤ second.score := by
  rcases steps_of_solve firstSolved with ⟨firstCount, firstSame, firstStage⟩
  rcases steps_of_solve secondSolved with ⟨secondCount, secondSame, secondStage⟩
  rcases run_of_solve firstSolved with ⟨-, scores, firstRun⟩
  rcases run_of_solve secondSolved with ⟨-, others, secondRun⟩
  have firstOver : firstEnded.isOver = true := by simp only [isOver, firstStage]
  have secondOver : secondEnded.isOver = true := by simp only [isOver, secondStage]
  have published : firstEnded.published <:+ secondEnded.published := by
    -- Both are over after as many steps as the longer of them takes.
    have firstLater := iterate_of_over (firstSame ▸ firstOver) (Nat.le_max_left firstCount secondCount)
    have secondLater := iterate_of_over (secondSame ▸ secondOver)
      (Nat.le_max_right firstCount secondCount)
    have reached := alike_or_over placer timetable config within untimed clock other
      source (max firstCount secondCount)
    dsimp only at reached
    rw [firstLater, secondLater, ← firstSame, ← secondSame] at reached
    rcases reached with alike | ⟨-, published⟩
    · rw [alike.published]
    · exact published
  refine ⟨List.reverse_prefix.2 published, ?_⟩
  rcases firstRun.accounts.of_reports (.inl firstStage) with ⟨_, -, best, listed, -, score⟩
  rcases secondRun.accounts.of_reports (.inl secondStage) with ⟨_, log, -⟩
  rcases secondRun.accounts.deliversBest.delivered second secondStage with
    ⟨last, _, latest, -, -, -, -, lastScore, -⟩
  calc first.score
      = best.score := score
    _ ≤ last.score := log.le_last latest (published.subset listed)
    _ = second.score := lastScore.symm

end Solver

namespace MusicMorning

open Solver

def oneMove : Limits := ⟨none, none, some 1⟩

theorem one_move_solves : ∃ result ended, solve.run (start { config with limits := oneMove }) = .ok result ended ∧
    result.score = ⟨-2, -3⟩ := by
  have delivered : (view ((opened (settings .lateAcceptance 1)).after (List.replicate 3 .step))).delivered =
      some (⟨-2, -3⟩, 1, 0) := by decide +kernel
  obtain ⟨result, stage, score, -⟩ := terminated_of_view 3 delivered
  exact ⟨result, _, solve_of_steps rfl (by decide) stage, score⟩

/-- Two moves more publish something better. -/
theorem two_moves_more_are_better : ∃ warnings first second firstEnded secondEnded,
    problem.assemble config = .ok (timetable, warnings) ∧ oneMove.Within config.limits ∧
    solve.run (start { config with limits := oneMove }) = .ok first firstEnded ∧
    solve.run (start config) = .ok second secondEnded ∧
    firstEnded.published.reverse <+: secondEnded.published.reverse ∧
    first.score ≤ second.score ∧ first.score = ⟨-2, -3⟩ ∧ second.score = ⟨0, -2⟩ := by
  obtain ⟨warnings, assembled⟩ := config_assembles
  obtain ⟨first, firstEnded, firstSolved, firstScore⟩ := one_move_solves
  obtain ⟨second, secondSolved, -, secondScore, -⟩ := solves
  have within : oneMove.Within config.limits := ⟨(by decide : (1 : Int) ≤ 3), trivial⟩
  obtain ⟨published, noWorse⟩ := more_moves_never_worse PlacementModel.placer timetable config within rfl .still
    .still draws firstSolved secondSolved
  exact ⟨warnings, first, second, firstEnded, _, assembled, within, firstSolved, secondSolved, published, noWorse,
    firstScore, secondScore⟩

end MusicMorning

end SchoolTimetable
