import Mathlib.Algebra.Order.BigOperators.Group.Finset
import Mathlib.Algebra.Order.Group.Int
import SchoolTimetable.Proofs.Evaluation.PositionSums

/-!
What a timetable without hard points lost looks like. Hard points are only ever lost, one for each match
of a hard constraint, so none are lost exactly if no lesson and no pair of lessons matches any of them.
-/

namespace SchoolTimetable

def hardPoints (impacts : List Impact) : Int := (impacts.map (·.2.hard)).sum

section Points

variable (first second : List Impact) (condition : Bool) (constraint : Constraint) (points : Int)

@[simp] theorem hard_points_nil : hardPoints [] = 0 := rfl

@[simp] theorem hard_points_append :
    hardPoints (first ++ second) = hardPoints first + hardPoints second := by
  simp [hardPoints]

@[simp] theorem hard_points_one_hard :
    hardPoints (impactIf condition constraint .oneHard) = if condition then -1 else 0 := by
  cases condition <;> rfl

@[simp] theorem hard_points_of_soft :
    hardPoints (impactIf condition constraint (.ofSoft points)) = 0 := by
  cases condition <;> rfl

end Points

theorem total_score_hard (impacts : List Impact) : (totalScore impacts).hard = hardPoints impacts := by
  rw [total_score_eq]
  induction impacts with
  | nil => rfl
  | cons impact rest ih =>
      rw [List.map_cons, List.sum_cons, Score.add_hard, ih]
      rfl

def Lesson.Faultless (lesson : Lesson) : Prop :=
  ∀ slot ∈ lesson.slot,
    (∀ teacher ∈ lesson.teacher, teacher.isBlockedAt slot = false ∧
      teacher.isQualifiedFor lesson.subject.id lesson.schoolClass.grade = true) ∧
    ∀ room ∈ lesson.room, roomIsTooSmall room lesson.schoolClass = false

/-- Two lessons share no teacher, no room and no class in a slot of one week. -/
def Lesson.Compatible (first second : Lesson) : Prop :=
  ∀ slot ∈ first.slot, ∀ other ∈ second.slot,
    slot.day = other.day → slot.id = other.id → first.overlaps second = true →
      sameTeacher first second = false ∧ sameRoom first second = false ∧ sameClass first second = false

/-- Of some points lost under conditions none are lost exactly if no condition holds. -/
private theorem points_lost (first second third : Bool) :
    ((if first then (-1 : Int) else 0) + (if second then -1 else 0) + (if third then -1 else 0) ≤ 0) ∧
      ((if first then (-1 : Int) else 0) + (if second then -1 else 0) + (if third then -1 else 0) = 0 ↔
        first = false ∧ second = false ∧ third = false) := by
  cases first <;> cases second <;> cases third <;> decide

theorem lesson_score_hard (weights : Weights) (lesson : Lesson) :
    (lessonScore weights lesson).hard ≤ 0 ∧
      ((lessonScore weights lesson).hard = 0 ↔ lesson.Faultless) := by
  unfold lessonScore Lesson.Faultless
  rw [total_score_hard]
  unfold lessonMatches
  cases lesson.slot with
  | none => simp
  | some slot =>
      have preferences : hardPoints
          (lesson.teacher.toList.flatMap (teacherPreferences weights lesson slot)) = 0 := by
        cases lesson.teacher <;> simp [teacherPreferences]
      simp only [hard_points_append, preferences, hard_points_one_hard, add_zero]
      cases lesson.teacher with
      | none =>
          have lost := points_lost false false
            (lesson.room.any fun room => roomIsTooSmall room lesson.schoolClass)
          simpa [Option.any_eq_false] using lost
      | some teacher =>
          have lost := points_lost (teacher.isBlockedAt slot)
            (!teacher.isQualifiedFor lesson.subject.id lesson.schoolClass.grade)
            (lesson.room.any fun room => roomIsTooSmall room lesson.schoolClass)
          simpa [teacherFaults, Option.any_eq_false, and_assoc] using lost

theorem pair_score_hard (weights : Weights) (first second : Lesson) :
    (pairScore weights first second).hard ≤ 0 ∧
      ((pairScore weights first second).hard = 0 ↔ first.Compatible second) := by
  unfold pairScore Lesson.Compatible
  rw [total_score_hard]
  unfold pairMatches
  cases first.slot with
  | none => simp
  | some slot =>
      cases second.slot with
      | none => simp
      | some other =>
          dsimp only
          split
          · rename_i meeting
            rw [Bool.and_eq_true, beq_iff_eq] at meeting
            have lost := points_lost (slot.id == other.id && sameTeacher first second)
              (slot.id == other.id && sameRoom first second)
              (slot.id == other.id && sameClass first second)
            -- All three constraints on pairs ask for one slot, so it can be taken out of them.
            have conditions : ((slot.id == other.id && sameTeacher first second) = false ∧
                (slot.id == other.id && sameRoom first second) = false ∧
                (slot.id == other.id && sameClass first second) = false) ↔
                (slot.id = other.id → sameTeacher first second = false ∧
                  sameRoom first second = false ∧ sameClass first second = false) := by
              by_cases together : slot.id = other.id <;> simp [together]
            rw [conditions] at lost
            simpa [meetingMatches, meeting.1, meeting.2, add_assoc] using lost
          · rename_i apart
            simp only [hard_points_nil, le_refl, true_and, true_iff]
            intro there inFirst elsewhere inSecond sameDay _ overlaps
            obtain rfl := Option.some.inj inFirst
            obtain rfl := Option.some.inj inSecond
            simp [sameDay, overlaps] at apart

open Finset

private theorem sum_hard (positions : Finset Nat) (value : Nat → Score) :
    (∑ position ∈ positions, value position).hard = ∑ position ∈ positions, (value position).hard := by
  induction positions using Finset.induction_on with
  | empty => rfl
  | insert position rest absent ih => rw [sum_insert absent, sum_insert absent, Score.add_hard, ih]

theorem lesson_score_at_hard (weights : Weights) (lessons : List Lesson) (position : Nat) :
    (lessonScoreAt weights lessons position).hard ≤ 0 ∧
      ((lessonScoreAt weights lessons position).hard = 0 ↔
        ∀ lesson ∈ lessons[position]?, lesson.Faultless) := by
  unfold lessonScoreAt
  cases lessons[position]? with
  | none => simp
  | some lesson => simpa using lesson_score_hard weights lesson

theorem pair_score_at_hard (weights : Weights) (lessons : List Lesson) (left right : Nat) :
    (pairScoreAt weights lessons left right).hard ≤ 0 ∧
      ((pairScoreAt weights lessons left right).hard = 0 ↔
        ∀ first ∈ lessons[left]?, ∀ second ∈ lessons[right]?, first.Compatible second) := by
  unfold pairScoreAt
  cases lessons[left]? with
  | none => simp
  | some first =>
      cases lessons[right]? with
      | none => simp
      | some second => simpa using pair_score_hard weights first second

/-- Hard points are only ever lost, and none are lost exactly if every lesson is faultless and any two
are compatible. -/
theorem full_score_hard (weights : Weights) (lessons : List Lesson) :
    (fullScore weights lessons).hard ≤ 0 ∧
      ((fullScore weights lessons).hard = 0 ↔
        (∀ lesson ∈ lessons, lesson.Faultless) ∧ lessons.Pairwise Lesson.Compatible) := by
  rw [full_score_eq_score_on, scoreOn, Score.add_hard, sum_hard, sum_hard]
  simp only [sum_hard]
  -- Sums of nonpositive terms vanish only term by term: first the two halves, then each of them.
  have lessonsLose : ∑ left ∈ range lessons.length, (lessonScoreAt weights lessons left).hard ≤ 0 :=
    sum_nonpos fun left _ => (lesson_score_at_hard weights lessons left).1
  have pairLoses : ∀ left right, (pairScoreAt weights lessons left right).hard ≤ 0 :=
    fun left right => (pair_score_at_hard weights lessons left right).1
  have rowsLose : ∀ left ∈ range lessons.length, ∑ right ∈ range lessons.length with left < right,
      (pairScoreAt weights lessons left right).hard ≤ 0 :=
    fun left _ => sum_nonpos fun right _ => pairLoses left right
  have pairsLose := sum_nonpos rowsLose
  refine ⟨by omega, ?_⟩
  have split : ∀ first second : Int, first ≤ 0 → second ≤ 0 →
      (first + second = 0 ↔ first = 0 ∧ second = 0) := by omega
  rw [split _ _ lessonsLose pairsLose]
  apply and_congr
  · rw [sum_eq_zero_iff_of_nonpos fun left _ => (lesson_score_at_hard weights lessons left).1]
    constructor
    · intro zero lesson listed
      obtain ⟨position, found⟩ := List.mem_iff_getElem?.1 listed
      have bound := (List.getElem?_eq_some_iff.1 found).1
      exact (lesson_score_at_hard weights lessons position).2.1 (zero position (mem_range.2 bound))
        lesson found
    · intro faultless position _
      apply (lesson_score_at_hard weights lessons position).2.2
      intro lesson found
      exact faultless lesson (List.mem_of_getElem? found)
  · rw [sum_eq_zero_iff_of_nonpos rowsLose, List.pairwise_iff_getElem]
    constructor
    · intro zero left right leftBound rightBound before
      have row := (sum_eq_zero_iff_of_nonpos fun right _ => pairLoses left right).1
        (zero left (mem_range.2 leftBound))
      have pair := row right (mem_filter.2 ⟨mem_range.2 rightBound, before⟩)
      exact (pair_score_at_hard weights lessons left right).2.1 pair _
        (List.getElem?_eq_getElem leftBound) _ (List.getElem?_eq_getElem rightBound)
    · intro compatible left _
      apply sum_eq_zero
      intro right listed
      apply (pair_score_at_hard weights lessons left right).2.2
      intro first firstFound second secondFound
      obtain ⟨leftBound, rfl⟩ := List.getElem?_eq_some_iff.1 firstFound
      obtain ⟨rightBound, rfl⟩ := List.getElem?_eq_some_iff.1 secondFound
      exact compatible left right leftBound rightBound (mem_filter.1 listed).2

end SchoolTimetable
