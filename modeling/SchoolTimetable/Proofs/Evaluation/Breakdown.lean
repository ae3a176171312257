import Mathlib.Algebra.BigOperators.Group.List.Basic
import Mathlib.Data.List.Perm.Basic
import SchoolTimetable.Proofs.Score.Arithmetic
import SchoolTimetable.Proofs.Record.Settings
import SchoolTimetable.Timetable.Evaluation

/-!
The breakdown of a score. The matches of a timetable are shared out over the constraints, each match to
its own constraint and to no other, so that the scores of the summaries add up to the score of the
timetable. A hard constraint takes one hard point for each match. A soft one moves soft points alone,
and under weights within their bounds only preferred slots ever add any.
-/

namespace SchoolTimetable

inductive Constraint.Priced (weights : Weights) : Constraint → Score → Prop
  | hard {constraint : Constraint} (isHard : constraint.isHard) : Priced weights constraint .oneHard
  | preferred (counts : weights.preferredSlot ≠ 0) :
      Priced weights .preferredSlots (.ofSoft weights.preferredSlot)
  | opening (counts : weights.firstPeriod ≠ 0) :
      Priced weights .firstPeriod (.ofSoft (-weights.firstPeriod))
  | idling {idle : Int} (counts : weights.gap ≠ 0) (idles : 0 < idle) :
      Priced weights .teacherGap (.ofSoft (-weights.gap * idle))
  | repetition (counts : weights.distribution ≠ 0) :
      Priced weights .subjectDistribution (.ofSoft (-weights.distribution))

theorem mem_impact_if {condition : Bool} {constraint : Constraint} {score : Score} {impact : Impact} :
    impact ∈ impactIf condition constraint score ↔ condition ∧ impact = (constraint, score) := by
  cases condition <;> simp [impactIf]

theorem priced_of_mem_impact_if {weights : Weights} {condition : Bool} {constraint : Constraint}
    {score : Score} {impact : Impact} (priced : condition → constraint.Priced weights score)
    (listed : impact ∈ impactIf condition constraint score) : impact.1.Priced weights impact.2 := by
  rw [mem_impact_if] at listed
  rw [listed.2]
  exact priced listed.1

theorem priced_of_mem_lesson_matches {weights : Weights} {lesson : Lesson} {impact : Impact}
    (listed : impact ∈ lessonMatches weights lesson) : impact.1.Priced weights impact.2 := by
  unfold lessonMatches at listed
  cases slot : lesson.slot with
  | none =>
      rw [slot] at listed
      cases listed
  | some slot' =>
      rw [slot] at listed
      simp only [List.mem_append, List.mem_flatMap] at listed
      rcases listed with (⟨teacher, -, fault⟩ | tooSmall) | ⟨teacher, -, preference⟩
      · rcases List.mem_append.1 fault with away | unqualified
        · exact priced_of_mem_impact_if (fun _ => .hard rfl) away
        · exact priced_of_mem_impact_if (fun _ => .hard rfl) unqualified
      · exact priced_of_mem_impact_if (fun _ => .hard rfl) tooSmall
      · rcases List.mem_append.1 preference with preferred | opening
        · apply priced_of_mem_impact_if _ preferred
          intro holds
          simp only [Bool.and_eq_true, bne_iff_ne] at holds
          exact .preferred holds.1
        · apply priced_of_mem_impact_if _ opening
          intro holds
          simp only [Bool.and_eq_true, bne_iff_ne] at holds
          exact .opening holds.1.1

theorem priced_of_mem_pair_matches {weights : Weights} {first second : Lesson} {impact : Impact}
    (listed : impact ∈ pairMatches weights first second) : impact.1.Priced weights impact.2 := by
  unfold pairMatches at listed
  split at listed
  · split at listed
    · simp only [meetingMatches, List.mem_append] at listed
      rcases listed with (((teacher | room) | schoolClass) | idling) | repetition
      · exact priced_of_mem_impact_if (fun _ => .hard rfl) teacher
      · exact priced_of_mem_impact_if (fun _ => .hard rfl) room
      · exact priced_of_mem_impact_if (fun _ => .hard rfl) schoolClass
      · apply priced_of_mem_impact_if _ idling
        intro holds
        simp only [Bool.and_eq_true, bne_iff_ne, decide_eq_true_eq] at holds
        exact .idling holds.1.2 holds.2
      · apply priced_of_mem_impact_if _ repetition
        intro holds
        simp only [Bool.and_eq_true, bne_iff_ne] at holds
        exact .repetition holds.1.2
    · cases listed
  · cases listed

theorem priced_of_mem_constraint_matches {weights : Weights} {lessons : List Lesson}
    {found : ConstraintMatch} (listed : found ∈ constraintMatches weights lessons) :
    found.constraint.Priced weights found.score := by
  rcases List.mem_append.1 listed with single | paired
  · obtain ⟨lesson, -, single⟩ := List.mem_flatMap.1 single
    obtain ⟨impact, matched, rfl⟩ := List.mem_map.1 single
    exact priced_of_mem_lesson_matches matched
  · obtain ⟨pair, -, paired⟩ := List.mem_flatMap.1 paired
    dsimp only at paired
    split at paired
    · obtain ⟨impact, matched, rfl⟩ := List.mem_map.1 paired
      exact priced_of_mem_pair_matches matched
    · cases paired

namespace Constraint.Priced

variable {weights : Weights} {constraint : Constraint} {score : Score}

theorem of_hard (priced : constraint.Priced weights score) (isHard : constraint.isHard) :
    score = .oneHard := by
  cases priced with
  | hard => rfl
  | _ => exact absurd isHard (by decide)

theorem of_soft (priced : constraint.Priced weights score) (isSoft : ¬ constraint.isHard) :
    score.hard = 0 ∧ score.soft ≠ 0 := by
  cases priced with
  | hard isHard => exact absurd isHard isSoft
  | preferred counts => exact ⟨rfl, counts⟩
  | opening counts => exact ⟨rfl, neg_ne_zero.2 counts⟩
  | idling counts idles => exact ⟨rfl, Int.mul_ne_zero (neg_ne_zero.2 counts) (by omega)⟩
  | repetition counts => exact ⟨rfl, neg_ne_zero.2 counts⟩

theorem soft_pos_iff (priced : constraint.Priced weights score) (valid : weights.Valid) :
    0 < score.soft ↔ constraint = .preferredSlots := by
  obtain ⟨preferredSlot, gap, distribution, firstPeriod⟩ := valid
  cases priced with
  | hard isHard =>
      constructor
      · intro positive
        exact absurd positive (by decide)
      · rintro rfl
        exact absurd isHard (by decide)
  | preferred counts =>
      have positive : 0 < weights.preferredSlot := by omega
      exact iff_of_true positive rfl
  | opening counts =>
      have penalty : -weights.firstPeriod ≤ 0 := by omega
      exact iff_of_false (Int.not_lt.2 penalty) (by decide)
  | @idling idle counts idles =>
      have penalty : -weights.gap * idle ≤ 0 := by
        rw [Int.neg_mul]
        have := Int.mul_nonneg gap (Int.le_of_lt idles)
        omega
      exact iff_of_false (Int.not_lt.2 penalty) (by decide)
  | repetition counts =>
      have penalty : -weights.distribution ≤ 0 := by omega
      exact iff_of_false (Int.not_lt.2 penalty) (by decide)

end Constraint.Priced

/-- Summaries that share out matches: one for each constraint, with the matches of this constraint and
no others, and all matches among them. -/
structure SharesOut (found : List ConstraintMatch) (summaries : List ConstraintSummary) : Prop where
  constraints : summaries.map (·.constraint) = Constraint.all
  own : ∀ summary ∈ summaries, ∀ entry ∈ summary.matched, entry.constraint = summary.constraint
  whole : (summaries.flatMap (·.matched)).Perm found

/-- Summaries that balance a score: each hard point was lost to one match, and soft constraints cost no
hard points. -/
structure Balances (score : Score) (summaries : List ConstraintSummary) : Prop where
  total : (summaries.map (·.score)).sum = score
  hard : ∀ summary ∈ summaries, summary.constraint.isHard → summary.score = ⟨-summary.count, 0⟩
  soft : ∀ summary ∈ summaries, ¬ summary.constraint.isHard → summary.score.hard = 0

theorem all_constraints_nodup : Constraint.all.Nodup := by decide

theorem mem_all_constraints (constraint : Constraint) : constraint ∈ Constraint.all := by
  cases constraint <;> decide

/-- Entries shared out over distinct keys are those whose key is one of them. -/
theorem shared_out_perm {Key Entry : Type} [DecidableEq Key] (keyOf : Entry → Key) (entries : List Entry)
    {keys : List Key} (distinct : keys.Nodup) :
    (keys.flatMap fun key => entries.filter (keyOf · == key)).Perm
      (entries.filter (keyOf · ∈ keys)) := by
  induction keys with
  | nil => simp
  | cons key rest ih =>
      obtain ⟨absent, distinct⟩ := List.nodup_cons.1 distinct
      rw [List.flatMap_cons]
      have split := List.filter_append_perm (keyOf · == key) (entries.filter (keyOf · ∈ key :: rest))
      have here : (entries.filter (keyOf · ∈ key :: rest)).filter (keyOf · == key) =
          entries.filter (keyOf · == key) := by
        rw [List.filter_filter]
        apply List.filter_congr
        intro entry _
        by_cases same : keyOf entry = key <;> simp [same]
      have elsewhere : ((entries.filter (keyOf · ∈ key :: rest)).filter fun entry =>
          !(keyOf entry == key)) = entries.filter (keyOf · ∈ rest) := by
        rw [List.filter_filter]
        apply List.filter_congr
        intro entry _
        by_cases same : keyOf entry = key
        · simp [same, absent]
        · simp [same]
      rw [here, elsewhere] at split
      exact ((ih distinct).append_left _).trans split

theorem explained_shares_out (weights : Weights) (lessons : List Lesson) :
    SharesOut (constraintMatches weights lessons) (explainScore weights lessons) where
  constraints := by
    unfold explainScore
    rw [List.map_map]
    exact List.map_id _
  own := by
    intro summary listed entry among
    obtain ⟨constraint, -, rfl⟩ := List.mem_map.1 listed
    exact of_decide_eq_true (List.mem_filter.1 among).2
  whole := by
    have shared := shared_out_perm (·.constraint) (constraintMatches weights lessons) all_constraints_nodup
    have all : ((constraintMatches weights lessons).filter (·.constraint ∈ Constraint.all)) =
        constraintMatches weights lessons :=
      List.filter_eq_self.2 fun entry _ => decide_eq_true (mem_all_constraints _)
    rw [all] at shared
    unfold explainScore
    rw [List.flatMap_map]
    exact shared

theorem SharesOut.total {found : List ConstraintMatch} {summaries : List ConstraintSummary}
    (shares : SharesOut found summaries) :
    (summaries.map (·.score)).sum = (found.map (·.score)).sum := by
  rw [← (shares.whole.map (·.score)).sum_eq]
  clear shares
  induction summaries with
  | nil => rfl
  | cons summary rest ih =>
      rw [List.map_cons, List.sum_cons, List.flatMap_cons, List.map_append, List.sum_append, ih,
        ConstraintSummary.score, Score.sum_eq]

theorem sum_of_hard_matches {matched : List ConstraintMatch}
    (priced : ∀ entry ∈ matched, entry.score = .oneHard) :
    (matched.map (·.score)).sum = ⟨-matched.length, 0⟩ := by
  rw [List.map_congr_left priced, List.map_const', List.sum_replicate]
  apply Score.ext_parts
  · rw [Score.nsmul_hard]
    exact Int.mul_neg_one _
  · rw [Score.nsmul_soft]
    exact Int.mul_zero _

theorem sum_of_soft_matches {matched : List ConstraintMatch}
    (priced : ∀ entry ∈ matched, entry.score.hard = 0) :
    (matched.map ConstraintMatch.score).sum.hard = 0 := by
  rw [Score.sum_hard, List.map_map]
  exact List.sum_eq_zero (List.forall_mem_map.2 priced)

/-- The matches of hard constraints are as many as the hard points that are lost. -/
theorem hard_points_lost {weights : Weights} {found : List ConstraintMatch}
    (priced : ∀ entry ∈ found, entry.constraint.Priced weights entry.score) :
    (found.map ConstraintMatch.score).sum.hard = -((found.filter (·.constraint.isHard)).length : Int) := by
  induction found with
  | nil => rfl
  | cons entry rest ih =>
      obtain ⟨first, others⟩ := List.forall_mem_cons.1 priced
      rw [List.map_cons, List.sum_cons, Score.add_hard, ih others, List.filter_cons]
      by_cases isHard : entry.constraint.isHard
      · have point : entry.score.hard = -1 := congrArg Score.hard (first.of_hard isHard)
        rw [if_pos isHard, List.length_cons, point]
        omega
      · rw [if_neg isHard, (first.of_soft isHard).1, Int.zero_add]

theorem explained_balances (weights : Weights) (lessons : List Lesson) :
    Balances (fullScore weights lessons) (explainScore weights lessons) where
  total := by
    rw [(explained_shares_out weights lessons).total, fullScore, Score.sum_eq]
  hard := by
    intro summary listed isHard
    obtain ⟨constraint, -, rfl⟩ := List.mem_map.1 listed
    rw [ConstraintSummary.score, Score.sum_eq]
    apply sum_of_hard_matches
    intro entry among
    obtain ⟨among, own⟩ := List.mem_filter.1 among
    have priced := priced_of_mem_constraint_matches among
    rw [eq_of_beq own] at priced
    exact priced.of_hard isHard
  soft := by
    intro summary listed isSoft
    obtain ⟨constraint, -, rfl⟩ := List.mem_map.1 listed
    rw [ConstraintSummary.score, Score.sum_eq]
    apply sum_of_soft_matches
    intro entry among
    obtain ⟨among, own⟩ := List.mem_filter.1 among
    have priced := priced_of_mem_constraint_matches among
    rw [eq_of_beq own] at priced
    exact (priced.of_soft isSoft).1

end SchoolTimetable
