import SchoolTimetable.Proofs.Search.Runs
import Mathlib.Order.Bounds.Basic

/-!
What a solve delivers, to those who watch it and in the end: the best placements that any step of it
has come by, with the score that they have.
-/

namespace SchoolTimetable

namespace Solver

variable {Source : Type}

/-- What can be relied on at any time of a solve. Scores are those of all candidates that were
evaluated so far, kept or not. -/
structure DeliversBest (placer : ExactPlacer) (timetable : Timetable) (config : Config)
    (scores : List Score) (solver : Solver Source) : Prop where
  increasing : solver.published.Pairwise fun later earlier => earlier.score < later.score
  first : ∀ best, solver.published.getLast? = some best →
    ∃ constructed, construct placer config timetable = .ok constructed ∧
      best.score = constructed.score
  exact : ∀ best ∈ solver.published, best.snapshot.length = timetable.lessons.length ∧
    best.score = fullScore config.weights (timetable.lessonsWith best.snapshot)
  provisional : ∀ constructed, construct placer config timetable = .ok constructed →
    solver.phase ≠ .idle → ∃ best result after,
      solver.published.head? = some best ∧ solver.currentBest = .ok (some result, after) ∧
      result.timetable = reported timetable best ∧ result.timetable.snapshot = best.snapshot ∧
      result.timetable.fullScore config.weights = result.score ∧ result.score = best.score
  delivered : ∀ result, solver.stage = .terminated result → ∃ best constructed,
    solver.published.head? = some best ∧ construct placer config timetable = .ok constructed ∧
    result.timetable = reported timetable best ∧ result.timetable.snapshot = best.snapshot ∧
    result.timetable.fullScore config.weights = result.score ∧ result.score = best.score ∧
    IsGreatest { score | score ∈ constructed.score :: scores } result.score

section Reports

variable {timetable : Timetable} {weights : Weights} {constructed : Director} {scores : List Score}
  {published : List Best} {best : Best}

theorem reported_full_score
    (log : PublishedFrom timetable weights constructed scores published) (listed : best ∈ published) :
    (reported timetable best).fullScore weights = best.score :=
  (log.exact best listed).symm

theorem reported_snapshot
    (log : PublishedFrom timetable weights constructed scores published) (listed : best ∈ published) :
    (reported timetable best).snapshot = best.snapshot :=
  timetable.snapshot_lessons_with (log.fits best listed)

theorem current_best_of_published {solver : Solver Source}
    (log : PublishedFrom solver.base weights constructed scores solver.published)
    (latest : solver.published.head? = some best) :
    ∃ result after, solver.currentBest = .ok (some result, after) ∧
      result.timetable = reported solver.base best ∧ result.score = best.score := by
  have listed : best ∈ solver.published := List.mem_of_head? latest
  have copied := Timetable.copy_with_of_length (some best.score) (log.fits best listed)
  unfold currentBest constructionScore?
  simp only [latest, log.first, Option.map_some, copied]
  exact ⟨_, _, rfl, rfl, rfl⟩

theorem greatest_of_last (log : PublishedFrom timetable weights constructed scores published)
    (latest : published.head? = some best) (atMost : ∀ score ∈ scores, score ≤ best.score) :
    IsGreatest { score | score ∈ constructed.score :: scores } best.score := by
  constructor
  · exact log.seen best (List.mem_of_head? latest)
  · intro score listed
    rcases List.mem_cons.1 listed with rfl | evaluated
    · exact log.le_last latest log.constructed_listed
    · exact atMost score evaluated

end Reports

variable {placer : ExactPlacer} {timetable : Timetable} {config : Config} {scores : List Score}
  {solver : Solver Source}

theorem Accounts.deliversBest (accounts : Accounts placer timetable config scores solver) :
    DeliversBest placer timetable config scores solver := by
  obtain ⟨sameBase, sameConfig, samePlacer, progress⟩ := accounts
  rcases progress with ⟨begun, -, empty⟩ | ⟨constructed, done, log, fits⟩
  · refine ⟨?_, ?_, ?_, ?_, ?_⟩
    · rw [empty]
      exact .nil
    · intro best found
      rw [empty] at found
      cases found
    · intro best listed
      rw [empty] at listed
      cases listed
    · intro constructed done notIdle
      rcases begun with ⟨source, stage⟩ | ⟨fault, -, failed⟩
      · exact absurd (by simp only [phase, stage]) notIdle
      · rw [failed] at done
        cases done
    · intro result terminated
      rcases begun with ⟨source, stage⟩ | ⟨fault, stage, -⟩
      · rw [stage] at terminated
        cases terminated
      · rw [stage] at terminated
        cases terminated
  · subst sameBase
    refine ⟨log.increasing, ?_, ?_, ?_, ?_⟩
    · intro best found
      obtain rfl := Option.some.inj (log.first.symm.trans found)
      exact ⟨constructed, done, rfl⟩
    · intro best listed
      exact ⟨log.fits best listed, log.exact best listed⟩
    · intro _ _ _
      obtain ⟨best, latest⟩ := log.exists_last
      obtain ⟨result, after, current, copy, score⟩ := current_best_of_published log latest
      have listed := List.mem_of_head? latest
      refine ⟨best, result, after, latest, current, copy, ?_, ?_, score⟩
      · rw [copy, reported_snapshot log listed]
      · rw [copy, reported_full_score log listed, score]
    · intro result terminated
      rw [terminated] at fits
      obtain ⟨best, latest, score, final, atMost⟩ := fits
      have listed := List.mem_of_head? latest
      refine ⟨best, constructed, latest, done, final, ?_, ?_, score, ?_⟩
      · rw [final, reported_snapshot log listed]
      · rw [final, reported_full_score log listed, score]
      · rw [score]
        exact greatest_of_last log latest atMost

/-- A result that the solver ended with or that it gives while it runs. -/
def Reports (solver : Solver Source) (result : SolveResult) : Prop :=
  solver.stage = .terminated result ∨ ∃ after, solver.currentBest = .ok (some result, after)

/-- Every result is a report of placements that were published, with their score. -/
theorem Accounts.of_reports {result : SolveResult}
    (accounts : Accounts placer timetable config scores solver) (reports : solver.Reports result) :
    ∃ constructed, PublishedFrom timetable config.weights constructed scores solver.published ∧
      ∃ best ∈ solver.published,
        result.timetable = reported timetable best ∧ result.score = best.score := by
  obtain ⟨rfl, -, -, progress⟩ := accounts
  rcases reports with terminated | ⟨after, current⟩
  · rw [terminated] at progress
    rcases progress with ⟨impossible, -⟩ | ⟨constructed, -, log, best, latest, score, final, -⟩
    · simp at impossible
    · exact ⟨constructed, log, best, List.mem_of_head? latest, final, score⟩
  · rcases progress with ⟨-, -, empty⟩ | ⟨constructed, -, log, -⟩
    · simp only [currentBest, empty] at current
      cases current
    · obtain ⟨best, latest⟩ := log.exists_last
      obtain ⟨same, afterwards, reported, copy, score⟩ := current_best_of_published log latest
      rw [current] at reported
      obtain ⟨equal, -⟩ := Prod.mk.inj (Except.ok.inj reported)
      obtain rfl := Option.some.inj equal
      exact ⟨constructed, log, best, List.mem_of_head? latest, copy, score⟩

/-- From its construction on a solve gives an account of what it published last. -/
theorem Accounts.current_best {best : Best} (accounts : Accounts placer timetable config scores solver)
    (latest : solver.published.head? = some best) :
    ∃ result after, solver.currentBest = .ok (some result, after) ∧
      result.timetable = reported timetable best ∧ result.score = best.score := by
  obtain ⟨rfl, -, -, progress⟩ := accounts
  rcases progress with ⟨-, -, empty⟩ | ⟨constructed, -, log, -⟩
  · rw [empty] at latest
    cases latest
  · exact current_best_of_published log latest

variable [RandomSource Source]

/-- At every time of every run what has been published rises from the score of construction to the
best of all candidates evaluated, and that is what is reported meanwhile and delivered in the end; a
whole solve that returns is such a run. -/
theorem every_run_delivers_its_best (placer : ExactPlacer) (timetable : Timetable) (config : Config)
    (clock : Clock) (source : Source) :
    (∀ scores solver, Run (ofTimetableWith placer timetable config clock source) scores solver →
      DeliversBest placer timetable config scores solver) ∧
    ∀ result ended, solve.run (ofTimetableWith placer timetable config clock source) = .ok result ended →
      ended.stage = .terminated result ∧
        ∃ scores, Run (ofTimetableWith placer timetable config clock source) scores ended := by
  constructor
  · intro scores solver run
    exact run.accounts.deliversBest
  · intro result ended solved
    exact run_of_solve solved

end Solver

end SchoolTimetable
