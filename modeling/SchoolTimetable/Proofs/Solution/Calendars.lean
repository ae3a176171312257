import SchoolTimetable.Proofs.Evaluation.Weeks
import SchoolTimetable.Proofs.Search.Delivery

/-!
What feasible means to a school. A timetable and the results of a solve decide in two ways whether they
are feasible: a score is if it has no less than no hard points, a result if it has none. Since no score
of an arrangement is above that, the two agree, and both say that neither week has a clash.
-/

namespace SchoolTimetable

theorem Score.is_feasible_of_nonpos {score : Score} (atMost : score.hard ≤ 0) :
    score.isFeasible = (score.hard == 0) := by
  rw [Score.isFeasible, Bool.eq_iff_iff, decide_eq_true_iff, beq_iff_eq]
  omega

namespace Director

variable {director : Director} {base : Timetable} {weights : Weights}

theorem Tracks.score_hard (tracks : director.Tracks base weights) : director.score.hard ≤ 0 := by
  rw [tracks.score_eq]
  exact (full_score_hard weights _).1

end Director

variable {Source : Type} [RandomSource Source]

theorem LocalSearch.Sound.candidate_hard {search : LocalSearch Source} {base : Timetable}
    {weights : Weights} (sound : search.Sound base weights) :
    ∀ score ∈ search.candidate?, score.hard ≤ 0 := by
  intro score found
  unfold LocalSearch.candidate? at found
  split at found
  · split at found
    · rename_i moved performed
      obtain rfl := Option.some.inj found
      exact (sound.tracks.perform performed).score_hard
    · cases found
  · cases found

namespace Solver

variable {placer : ExactPlacer} {timetable : Timetable} {config : Config} {clock : Clock}
  {source : Source} {scores : List Score} {solver : Solver Source}

theorem Accounts.candidate_hard (accounts : Accounts placer timetable config scores solver) :
    ∀ score ∈ solver.candidate?, score.hard ≤ 0 := by
  intro score found
  unfold candidate? at found
  split at found
  · rename_i search stage
    split at found
    · cases found
    · have progress := accounts.progress
      rw [stage] at progress
      rcases progress with ⟨impossible, -⟩ | ⟨-, -, -, sound, -⟩
      · simp at impossible
      · exact sound.candidate_hard score found
  · cases found

theorem Run.scores_hard
    (run : Run (ofTimetableWith placer timetable config clock source) scores solver) :
    ∀ score ∈ scores, score.hard ≤ 0 := by
  induction run with
  | start => exact List.forall_mem_nil _
  | advance run ih =>
      intro score listed
      rcases List.mem_append.1 listed with earlier | candidate
      · exact ih score earlier
      · exact run.accounts.candidate_hard score (Option.mem_toList.1 candidate)
  | cancel _ ih => exact ih
  | watch _ _ ih => exact ih

/-- No timetable has hard points to spare, and it loses none exactly if both weeks are free of clashes.
So the scores of a solve and its results agree on what is feasible, which is what has no clash. -/
theorem feasible_means_clash_free (placer : ExactPlacer) (timetable : Timetable) (config : Config)
    (clock : Clock) (source : Source) :
    (∀ weights, (timetable.fullScore weights).hard ≤ 0 ∧
      ((timetable.fullScore weights).hard = 0 ↔ ClashFree timetable.lessons) ∧
      (timetable.fullScore weights).isFeasible = ((timetable.fullScore weights).hard == 0)) ∧
    ∀ scores solver, Run (ofTimetableWith placer timetable config clock source) scores solver →
      (∀ score ∈ scores ++ solver.published.map (·.score), score.isFeasible = (score.hard == 0)) ∧
      ∀ result, solver.Reports result → result.isFeasible = result.score.isFeasible ∧
        (result.isFeasible ↔ ClashFree result.timetable.lessons) := by
  constructor
  · intro weights
    have atMost := (full_score_hard weights timetable.lessons).1
    exact ⟨atMost, hard_eq_zero_iff_clash_free weights timetable.lessons,
      Score.is_feasible_of_nonpos atMost⟩
  · intro scores solver run
    constructor
    · intro score listed
      rcases List.mem_append.1 listed with evaluated | published
      · exact Score.is_feasible_of_nonpos (run.scores_hard score evaluated)
      · obtain ⟨best, member, rfl⟩ := List.mem_map.1 published
        apply Score.is_feasible_of_nonpos
        rw [(run.accounts.deliversBest.exact best member).2]
        exact (full_score_hard _ _).1
    · intro result reports
      obtain ⟨_, log, best, listed, same, score⟩ := run.accounts.of_reports reports
      have exact : result.score = fullScore config.weights result.timetable.lessons := by
        rw [score, same]
        exact (reported_full_score log listed).symm
      have atMost := (full_score_hard config.weights result.timetable.lessons).1
      rw [← exact] at atMost
      refine ⟨(Score.is_feasible_of_nonpos atMost).symm, ?_⟩
      rw [SolveResult.isFeasible, beq_iff_eq, exact]
      exact hard_eq_zero_iff_clash_free config.weights result.timetable.lessons

end Solver

end SchoolTimetable
