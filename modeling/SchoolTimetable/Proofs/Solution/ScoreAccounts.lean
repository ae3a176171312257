import SchoolTimetable.Proofs.Evaluation.Breakdown
import SchoolTimetable.Proofs.Solution.Resolution

/-!
How a solution document accounts for its score. The score itself was kept up to date move by move during
the search, while the shares of the constraints and the violations are found anew in the timetable that
was written back. Both agree: the shares add up to the score, and the hard violations are as many as the
hard points that were lost. The only matches that the document leaves out are rewards.
-/

namespace SchoolTimetable

def ConstraintMatch.isReward (found : ConstraintMatch) : Bool := 0 < found.score.soft

/-- The line of a match in a list of violations, unless its score is too long for a text. -/
def ConstraintMatch.line? (found : ConstraintMatch) : Option Violation :=
  found.violation? found.constraint.isHard

/-- The share of a constraint, which is nothing where the summary does not name it. -/
def ScoreSummary.share (summary : ScoreSummary) (constraint : Constraint) : Int :=
  (summary.constraints.lookup constraint.name).getD 0

/-- A document that accounts for its score by the matches of some lessons. -/
structure Solution.AccountsFor (solution : Solution) (weights : Weights) (lessons : List Lesson) :
    Prop where
  named : (solution.score.constraints.map (·.1)).Sublist (Constraint.all.map (·.name))
  hard : solution.score.hard = (Constraint.hardOnes.map solution.score.share).sum
  soft : solution.score.soft = (Constraint.softOnes.map solution.score.share).sum
  lost : solution.score.hard = -((solution.violations.filter (·.hard)).length : Int)
  satisfied : solution.score.satisfied ↔ ∀ violation ∈ solution.violations, ¬ violation.hard
  order : solution.violations.Pairwise fun earlier later => later.hard → earlier.hard
  listed : (solution.violations.map some).Perm
    (((constraintMatches weights lessons).filter (!·.isReward)).map (·.line?))
  leftOut : ∀ found ∈ constraintMatches weights lessons, found.isReward → ¬ found.constraint.isHard
  rewards : weights.Valid → ∀ found ∈ constraintMatches weights lessons,
    (found.isReward ↔ found.constraint = .preferredSlots)

namespace Constraint

theorem names_nodup : (all.map (·.name)).Nodup := by decide +kernel

theorem name_injective {first second : Constraint} (same : first.name = second.name) :
    first = second :=
  List.inj_on_of_nodup_map names_nodup (mem_all_constraints first) (mem_all_constraints second) same

theorem hard_of_mem {constraint : Constraint} (listed : constraint ∈ hardOnes) : constraint.isHard :=
  List.contains_iff_mem.2 listed

theorem soft_of_mem {constraint : Constraint} (listed : constraint ∈ softOnes) :
    ¬ constraint.isHard := by
  revert constraint
  decide

end Constraint

def summaryOf (found : List ConstraintMatch) (constraint : Constraint) : ConstraintSummary :=
  ⟨constraint, found.filter (·.constraint == constraint)⟩

theorem explain_score_eq (weights : Weights) (lessons : List Lesson) :
    explainScore weights lessons =
      Constraint.all.map (summaryOf (constraintMatches weights lessons)) := rfl

section Shares

variable (found : List ConstraintMatch)

theorem points_of_unmatched {constraint : Constraint} (unmatched : (summaryOf found constraint).count = 0) :
    (summaryOf found constraint).points = 0 := by
  have empty : (summaryOf found constraint).matched = [] := List.length_eq_zero_iff.1 unmatched
  unfold ConstraintSummary.points ConstraintSummary.score
  rw [empty]
  split <;> rfl

theorem constraint_shares_cons (summary : ConstraintSummary) (rest : List ConstraintSummary) :
    constraintShares (summary :: rest) =
      if summary.count = 0 then constraintShares rest
      else (summary.constraint.name, summary.points) :: constraintShares rest := by
  unfold constraintShares
  by_cases unmatched : summary.count = 0 <;> simp [unmatched]

/-- A constraint has its points under its name, also where it has none and is left out. -/
theorem lookup_shares (constraint : Constraint) (constraints : List Constraint) :
    ((constraintShares (constraints.map (summaryOf found))).lookup constraint.name).getD 0 =
      if constraint ∈ constraints then (summaryOf found constraint).points else 0 := by
  induction constraints with
  | nil => rfl
  | cons first rest ih =>
      rw [List.map_cons, constraint_shares_cons]
      by_cases same : constraint = first
      · subst same
        rw [if_pos (List.mem_cons_self ..)]
        split
        · rename_i unmatched
          rw [ih, points_of_unmatched found unmatched]
          exact ite_self 0
        · rw [summaryOf, List.lookup_cons_self]
          rfl
      · have elsewhere : constraint ∈ first :: rest ↔ constraint ∈ rest := by simp [same]
        have otherName : (constraint.name == first.name) = false :=
          beq_false_of_ne fun equal => same (Constraint.name_injective equal)
        simp only [elsewhere, ← ih]
        split
        · rfl
        · simp only [List.lookup_cons, summaryOf, otherName]

end Shares

theorem shares_named (summaries : List ConstraintSummary) :
    ((constraintShares summaries).map (·.1)).Sublist (summaries.map (·.constraint.name)) := by
  unfold constraintShares
  rw [List.map_map]
  exact List.filter_sublist.map _

section Matches

variable {weights : Weights} {lessons : List Lesson}

theorem costs_iff {constraint : Constraint} {score : Score} (priced : constraint.Priced weights score) :
    (score.hard < 0 || score.soft < 0) = !decide (0 < score.soft) := by
  by_cases isHard : constraint.isHard
  · rw [priced.of_hard isHard]
    rfl
  · obtain ⟨noHard, someSoft⟩ := priced.of_soft isHard
    by_cases reward : 0 < score.soft
    · have noCost : ¬ score.soft < 0 := by omega
      simp [noHard, reward, noCost]
    · have cost : score.soft < 0 := by omega
      simp [reward, cost]

theorem hard_of_reward {constraint : Constraint} {score : Score}
    (priced : constraint.Priced weights score) (reward : 0 < score.soft) : ¬ constraint.isHard := by
  intro isHard
  rw [priced.of_hard isHard] at reward
  exact absurd reward (by decide)

def costsOf (found : List ConstraintMatch) (constraint : Constraint) : List ConstraintMatch :=
  ((summaryOf found constraint).matched).filter (!·.isReward)

theorem constraint_of_mem_costs {found : List ConstraintMatch} {constraint : Constraint}
    {entry : ConstraintMatch} (listed : entry ∈ costsOf found constraint) : entry.constraint = constraint := by
  obtain ⟨among, -⟩ := List.mem_filter.1 listed
  obtain ⟨-, own⟩ := List.mem_filter.1 among
  exact eq_of_beq own

theorem costly_of_explained (weights : Weights) (lessons : List Lesson) :
    costlyMatches (explainScore weights lessons) =
      (Constraint.all.flatMap (costsOf (constraintMatches weights lessons))).map fun found =>
        (found.constraint.isHard, found) := by
  have parted : (explainScore weights lessons).partition (·.constraint.isHard) =
      (Constraint.hardOnes.map (summaryOf (constraintMatches weights lessons)),
        Constraint.softOnes.map (summaryOf (constraintMatches weights lessons))) := by
    rw [List.partition_eq_filter_filter, explain_score_eq, List.filter_map, List.filter_map]
    rfl
  unfold costlyMatches
  rw [parted]
  dsimp only
  rw [← List.map_append, List.flatMap_map, List.map_flatMap]
  apply List.flatMap_congr
  intro constraint _
  have costly : (summaryOf (constraintMatches weights lessons) constraint).matched.filter
        (fun found => found.score.hard < 0 || found.score.soft < 0) =
      costsOf (constraintMatches weights lessons) constraint := by
    apply List.filter_congr
    intro entry among
    have priced := priced_of_mem_constraint_matches (List.mem_filter.1 among).1
    simpa [ConstraintMatch.isReward] using costs_iff priced
  rw [costly]
  apply List.map_congr_left
  intro entry among
  rw [constraint_of_mem_costs among]
  rfl

theorem costs_perm (weights : Weights) (lessons : List Lesson) :
    (Constraint.all.flatMap (costsOf (constraintMatches weights lessons))).Perm
      ((constraintMatches weights lessons).filter (!·.isReward)) := by
  have whole := (explained_shares_out weights lessons).whole
  rw [explain_score_eq, List.flatMap_map] at whole
  have listed := whole.filter (!·.isReward)
  rw [List.filter_flatMap] at listed
  exact listed

theorem costs_in_order (found : List ConstraintMatch) :
    (Constraint.all.flatMap (costsOf found)).Pairwise fun earlier later =>
      later.constraint.isHard → earlier.constraint.isHard := by
  have hardFirst : ∀ entry ∈ Constraint.hardOnes.flatMap (costsOf found), entry.constraint.isHard := by
    intro entry listed
    obtain ⟨constraint, isHard, listed⟩ := List.mem_flatMap.1 listed
    rw [constraint_of_mem_costs listed]
    exact Constraint.hard_of_mem isHard
  have softLast : ∀ entry ∈ Constraint.softOnes.flatMap (costsOf found), ¬ entry.constraint.isHard := by
    intro entry listed
    obtain ⟨constraint, isSoft, listed⟩ := List.mem_flatMap.1 listed
    rw [constraint_of_mem_costs listed]
    exact Constraint.soft_of_mem isSoft
  unfold Constraint.all
  rw [List.flatMap_append, List.pairwise_append]
  refine ⟨?_, ?_, ?_⟩
  · exact List.pairwise_of_forall_mem_list fun earlier first later _ _ => hardFirst earlier first
  · exact List.pairwise_of_forall_mem_list fun earlier _ later last isHard =>
      absurd isHard (softLast later last)
  · intro earlier first later _ _
    exact hardFirst earlier first

variable {violations : List Violation}

theorem lines_of_violations (listed : violationsOf? (explainScore weights lessons) = some violations) :
    violations.map some =
      (Constraint.all.flatMap (costsOf (constraintMatches weights lessons))).map (·.line?) := by
  unfold violationsOf? at listed
  simp only [map_m_eq_some, costly_of_explained, List.map_map, Function.comp_def] at listed
  exact listed

theorem hard_of_line {found : ConstraintMatch} {violation : Violation} (line : found.line? = some violation) :
    violation.hard = found.constraint.isHard := by
  unfold ConstraintMatch.line? ConstraintMatch.violation? at line
  obtain ⟨text, -, rfl⟩ := Option.map_eq_some_iff.1 line
  rfl

theorem hard_of_lines {costs : List ConstraintMatch} (lines : violations.map some = costs.map (·.line?)) :
    violations.map (·.hard) = costs.map (·.constraint.isHard) := by
  induction violations generalizing costs with
  | nil =>
      obtain rfl := List.map_eq_nil_iff.1 lines.symm
      rfl
  | cons violation rest ih =>
      obtain ⟨found, others, rfl, line, remaining⟩ := List.map_eq_cons_iff.1 lines.symm
      rw [List.map_cons, List.map_cons, hard_of_line line, ih remaining.symm]

theorem violations_in_order (listed : violationsOf? (explainScore weights lessons) = some violations) :
    violations.Pairwise fun earlier later => later.hard → earlier.hard := by
  have flags := hard_of_lines (lines_of_violations listed)
  have ordered : (violations.map (·.hard)).Pairwise fun earlier later : Bool => later → earlier := by
    rw [flags]
    exact List.pairwise_map.2 (costs_in_order _)
  exact List.pairwise_map.1 ordered

theorem hard_violations (listed : violationsOf? (explainScore weights lessons) = some violations) :
    (fullScore weights lessons).hard = -((violations.filter (·.hard)).length : Int) := by
  have flags := hard_of_lines (lines_of_violations listed)
  -- No match of a hard constraint is a reward, so none is left out.
  have all : (constraintMatches weights lessons).filter (fun found =>
        found.constraint.isHard && !found.isReward) =
      (constraintMatches weights lessons).filter (·.constraint.isHard) := by
    apply List.filter_congr
    intro found listed
    have soft := hard_of_reward (priced_of_mem_constraint_matches listed)
    by_cases reward : 0 < found.score.soft
    · simp [soft reward]
    · simp [ConstraintMatch.isReward, reward]
  have counted : (violations.filter (·.hard)).length =
      ((constraintMatches weights lessons).filter (·.constraint.isHard)).length := by
    calc (violations.filter (·.hard)).length
        = ((violations.map (·.hard)).filter id).length := by
          rw [List.filter_map, List.length_map]
          rfl
      _ = ((Constraint.all.flatMap (costsOf (constraintMatches weights lessons))).filter
            (·.constraint.isHard)).length := by
          rw [flags, List.filter_map, List.length_map]
          rfl
      _ = (((constraintMatches weights lessons).filter (!·.isReward)).filter
            (·.constraint.isHard)).length :=
          ((costs_perm weights lessons).filter _).length_eq
      _ = ((constraintMatches weights lessons).filter (·.constraint.isHard)).length := by
          rw [List.filter_filter, all]
  rw [counted, fullScore, Score.sum_eq, hard_points_lost fun _ => priced_of_mem_constraint_matches]

/-- The shares of the constraints add up to the score, those of hard ones to its hard part. -/
theorem shares_add_up (weights : Weights) (lessons : List Lesson) :
    (fullScore weights lessons).hard = (Constraint.hardOnes.map fun constraint =>
        ((constraintShares (explainScore weights lessons)).lookup constraint.name).getD 0).sum ∧
    (fullScore weights lessons).soft = (Constraint.softOnes.map fun constraint =>
        ((constraintShares (explainScore weights lessons)).lookup constraint.name).getD 0).sum := by
  have balances := explained_balances weights lessons
  have inSummaries : ∀ constraint, summaryOf (constraintMatches weights lessons) constraint ∈
      explainScore weights lessons :=
    fun constraint => List.mem_map_of_mem (mem_all_constraints constraint)
  have share : ∀ constraint,
      ((constraintShares (explainScore weights lessons)).lookup constraint.name).getD 0 =
        (summaryOf (constraintMatches weights lessons) constraint).points :=
    fun constraint =>
      (lookup_shares _ constraint Constraint.all).trans (if_pos (mem_all_constraints constraint))
  simp only [share]
  rw [← balances.total, explain_score_eq, Score.sum_hard, Score.sum_soft]
  simp only [List.map_map, Constraint.all, List.map_append, List.sum_append]
  constructor
  · -- Soft summaries have no hard points, so the hard ones alone make up the sum, and below the reverse.
    have points : (Constraint.softOnes.map ((·.hard) ∘ (·.score) ∘
        summaryOf (constraintMatches weights lessons))).sum = 0 :=
      List.sum_eq_zero (List.forall_mem_map.2 fun constraint listed =>
        balances.soft _ (inSummaries constraint) (Constraint.soft_of_mem listed))
    rw [points, Int.add_zero]
    apply congrArg List.sum
    apply List.map_congr_left
    intro constraint listed
    exact (if_pos (Constraint.hard_of_mem listed)).symm
  · have points : (Constraint.hardOnes.map ((·.soft) ∘ (·.score) ∘
        summaryOf (constraintMatches weights lessons))).sum = 0 :=
      List.sum_eq_zero (List.forall_mem_map.2 fun constraint listed => congrArg Score.soft
        (balances.hard _ (inSummaries constraint) (Constraint.hard_of_mem listed)))
    rw [points, Int.zero_add]
    apply congrArg List.sum
    apply List.map_congr_left
    intro constraint listed
    exact (if_neg (Constraint.soft_of_mem listed)).symm

end Matches

/-- A result with the score of its timetable has a document that accounts for it. -/
theorem SolveResult.solution_accounts {result : SolveResult} {config : Config} {solution : Solution}
    (exact : result.timetable.fullScore config.weights = result.score)
    (resolved : result.solution config = .ok solution) :
    solution.AccountsFor config.weights result.timetable.lessons := by
  obtain ⟨records, violations, -, listed, rfl⟩ := solution_ok resolved
  have lost := hard_violations listed
  have shares := shares_add_up config.weights result.timetable.lessons
  change fullScore config.weights result.timetable.lessons = result.score at exact
  rw [exact] at lost shares
  refine ⟨?_, shares.1, shares.2, lost, ?_, violations_in_order listed, ?_, ?_, ?_⟩
  · have named := shares_named (explainScore config.weights result.timetable.lessons)
    rw [explain_score_eq, List.map_map] at named
    exact named
  · dsimp only [document, SolveResult.isFeasible]
    rw [beq_iff_eq, lost, neg_eq_zero, Int.natCast_eq_zero, List.length_eq_zero_iff,
      List.filter_eq_nil_iff]
  · have lines := (costs_perm config.weights result.timetable.lessons).map (·.line?)
    rw [← lines_of_violations listed] at lines
    exact lines
  · intro found listed reward
    exact hard_of_reward (priced_of_mem_constraint_matches listed) (of_decide_eq_true reward)
  · intro valid found listed
    exact decide_eq_true_iff.trans ((priced_of_mem_constraint_matches listed).soft_pos_iff valid)

namespace Solver

variable {Source : Type} [RandomSource Source]

/-- A score is broken down over the constraints without loss, and the document of every report of a solve,
on the way or in the end, accounts for the score it gives. -/
theorem every_document_accounts_for_its_score (placer : ExactPlacer) (timetable : Timetable)
    (config : Config) (clock : Clock) (source : Source) :
    (∀ weights lessons,
      SharesOut (constraintMatches weights lessons) (explainScore weights lessons) ∧
        Balances (fullScore weights lessons) (explainScore weights lessons)) ∧
    (∀ scores solver result solution,
      Run (ofTimetableWith placer timetable config clock source) scores solver →
        solver.Reports result → result.solution config = .ok solution →
          solution.AccountsFor config.weights result.timetable.lessons) ∧
    ∀ result ended solution,
      solve.run (ofTimetableWith placer timetable config clock source) = .ok result ended →
        result.solution config = .ok solution →
          solution.AccountsFor config.weights result.timetable.lessons := by
  have ofReport : ∀ scores solver result solution,
      Run (ofTimetableWith placer timetable config clock source) scores solver →
        solver.Reports result → result.solution config = .ok solution →
          solution.AccountsFor config.weights result.timetable.lessons := by
    intro scores solver result solution run reports resolved
    obtain ⟨constructed, log, best, listed, copy, score⟩ := run.accounts.of_reports reports
    apply SolveResult.solution_accounts _ resolved
    rw [copy, reported_full_score log listed, score]
  refine ⟨?_, ofReport, ?_⟩
  · intro weights lessons
    exact ⟨explained_shares_out weights lessons, explained_balances weights lessons⟩
  · intro result ended solution solved resolved
    obtain ⟨terminated, scores, run⟩ := run_of_solve solved
    exact ofReport scores ended result solution run (.inl terminated) resolved

end Solver

namespace MusicMorning

open Solver

def openingViolations : List Violation :=
  [⟨"Class conflict", true, "-1hard/0soft", ["r1-1", "r2-1"]⟩,
    ⟨"Class conflict", true, "-1hard/0soft", ["r1-1", "r3-1"]⟩,
    ⟨"Teacher gap", false, "0hard/-2soft", ["r1-1", "r1-2"]⟩,
    ⟨"Subject distribution", false, "0hard/-2soft", ["r1-1", "r1-2"]⟩]

theorem opening_breakdown :
    violationsOf? (explainScore .standard (timetable.lessonsWith opening)) = some openingViolations ∧
    (constraintMatches .standard (timetable.lessonsWith opening)).filter (·.isReward) =
      [⟨.preferredSlots, ⟨0, 1⟩, ["r1-1"]⟩] ∧
    timetable.scoreOf .standard opening = ⟨-2, -3⟩ := by
  decide +kernel

theorem documented {scores : List Score} {solver : Solver Wheel} {result : SolveResult}
    (run : Run (start config) scores solver) (reports : solver.Reports result) :
    ∃ solution, result.solution config = .ok solution := by
  obtain ⟨warnings, assembled⟩ := config_assembles
  obtain ⟨within, -, recorded⟩ := run.resolved assembled reports
  exact recorded.document.2 (within.writable Weights.standard_moderate (by decide))

theorem opening_documented : ∃ scores result solution,
    Run (start config) scores ((start config).after [.step]) ∧ ((start config).after [.step]).Reports result ∧
    result.timetable.lessons = timetable.lessonsWith opening ∧ result.score = ⟨-2, -3⟩ ∧
    result.solution config = .ok solution ∧ solution.lessons.length = 4 ∧
    solution.violations = openingViolations := by
  obtain ⟨scores, run⟩ := run_after config [.step]
  have published : ((start config).after [.step]).published = (opened config).published :=
    congrArg PlainSolve.published (plain_after 0)
  obtain ⟨result, after, current, copy, score⟩ :=
    run.accounts.current_best (congrArg List.head? published)
  have lessons : result.timetable.lessons = timetable.lessonsWith opening := by
    rw [copy]
    rfl
  obtain ⟨solution, extracted⟩ := documented run (.inr ⟨after, current⟩)
  obtain ⟨records, violations, recorded, listed, rfl⟩ := SolveResult.solution_ok extracted
  have own : violations = openingViolations := by
    rw [lessons] at listed
    exact Option.some.inj (listed.symm.trans opening_breakdown.1)
  have four : records.length = 4 := by
    unfold Timetable.records at recorded
    split at recorded
    · obtain rfl := Except.ok.inj recorded
      unfold LessonRecord.inOrder
      rw [List.length_mergeSort, lessons]
      rfl
    · cases recorded
  exact ⟨scores, result, _, run, .inr ⟨after, current⟩, lessons, score.trans opening_breakdown.2.2, extracted, four,
    own⟩

/-- The document of what was constructed lists two hard violations and two soft ones and leaves out the
reward for a preferred slot. -/
theorem opening_is_accounted_for : ∃ warnings scores opens opensDocument delivered ended document,
    problem.assemble config = .ok (timetable, warnings) ∧
    Run (start config) scores ((start config).after [.step]) ∧ ((start config).after [.step]).Reports opens ∧
    opens.solution config = .ok opensDocument ∧
    opensDocument.AccountsFor config.weights opens.timetable.lessons ∧
    opensDocument.score.hard = -2 ∧ opensDocument.score.soft = -3 ∧
    opensDocument.violations = openingViolations ∧
    (constraintMatches config.weights opens.timetable.lessons).filter (·.isReward) =
      [⟨.preferredSlots, ⟨0, 1⟩, ["r1-1"]⟩] ∧
    Balances (fullScore config.weights opens.timetable.lessons)
      (explainScore config.weights opens.timetable.lessons) ∧
    solve.run (start config) = .ok delivered ended ∧ delivered.score = ⟨0, -2⟩ ∧
    delivered.solution config = .ok document ∧
    document.AccountsFor config.weights delivered.timetable.lessons := by
  obtain ⟨warnings, assembled⟩ := config_assembles
  obtain ⟨balances, ofReport, ofSolve⟩ :=
    every_document_accounts_for_its_score PlacementModel.placer timetable config .still draws
  obtain ⟨scores, opens, opensDocument, run, reports, lessons, score, extracted, -, own⟩ := opening_documented
  obtain ⟨delivered, solved, terminated, final, -⟩ := solves
  obtain ⟨others, toItsEnd⟩ := run_after config toEnd
  obtain ⟨document, extractedLast⟩ := documented toItsEnd (.inl terminated)
  have accounts := ofReport _ _ _ _ run reports extracted
  have reward : (constraintMatches config.weights opens.timetable.lessons).filter (·.isReward) =
      [⟨.preferredSlots, ⟨0, 1⟩, ["r1-1"]⟩] := by
    rw [lessons]
    exact opening_breakdown.2.1
  have hard : opensDocument.score.hard = -2 := by
    obtain ⟨records, violations, -, -, rfl⟩ := SolveResult.solution_ok extracted
    exact congrArg Score.hard score
  have soft : opensDocument.score.soft = -3 := by
    obtain ⟨records, violations, -, -, rfl⟩ := SolveResult.solution_ok extracted
    exact congrArg Score.soft score
  exact ⟨warnings, scores, opens, opensDocument, delivered, _, document, assembled, run, reports, extracted,
    accounts, hard, soft, own, reward, (balances _ _).2, solved, final, extractedLast,
    ofSolve _ _ _ solved extractedLast⟩

end MusicMorning

end SchoolTimetable
