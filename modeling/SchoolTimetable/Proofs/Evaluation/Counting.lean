import Mathlib.Algebra.BigOperators.Fin
import Mathlib.Algebra.BigOperators.Ring.Finset
import Mathlib.Algebra.Order.Group.Unbundled.Int
import Mathlib.Tactic.Ring
import SchoolTimetable.Proofs.Evaluation.Weeks

/-!
The score of a timetable by counting. Every lesson and every pair of positions is looked at, each
requirement is counted as it is written down, and no weight has a say in what is counted; the weights
only say what a count is worth. The evaluation, which looks for pairs in buckets, yields the same score.
-/

namespace SchoolTimetable

open Finset

namespace Lesson

variable (lesson first second : Lesson)

instance : Decidable (first.SharesTeacher second) :=
  decidable_of_iff (sameTeacher first second = true) (same_teacher_iff first second)

instance : Decidable (first.SharesRoom second) :=
  decidable_of_iff (sameRoom first second = true) (same_room_iff first second)

instance : Decidable (first.SharesClass second) :=
  decidable_of_iff (sameClass first second = true) (same_class_iff first second)

def SharesWeek : Prop := ∃ week, first.pattern.runsIn week ∧ second.pattern.runsIn week

instance : Decidable (first.SharesWeek second) :=
  decidable_of_iff (first.overlaps second = true)
    (WeekPattern.overlaps_iff first.pattern second.pattern)

def SharesDay : Prop :=
  first.SharesWeek second ∧ ∃ own ∈ first.slot, ∃ other ∈ second.slot, own.day = other.day
deriving Decidable

def SharesSlot : Prop :=
  first.SharesWeek second ∧
    ∃ own ∈ first.slot, ∃ other ∈ second.slot, own.day = other.day ∧ own.id = other.id
deriving Decidable

def Repeats : Prop :=
  first.SharesDay second ∧ first.SharesClass second ∧ first.subject.id = second.subject.id
deriving Decidable

/-- The periods between the lessons, which are idle for a teacher who gives both on one day. -/
def idleBetween : Int :=
  match first.slot, second.slot with
  | some own, some other => max 0 (|own.period - other.period| - 1)
  | _, _ => 0

def TeacherAway : Prop :=
  ∃ slot ∈ lesson.slot, ∃ teacher ∈ lesson.teacher, slotKey slot.day slot.period ∈ teacher.blocked
deriving Decidable

def TeacherUnqualified : Prop :=
  ∃ _slot ∈ lesson.slot, ∃ teacher ∈ lesson.teacher,
    ∀ grades ∈ teacher.qualifications.lookup lesson.subject.id, lesson.schoolClass.grade ∉ grades
deriving Decidable

def RoomTooSmall : Prop :=
  ∃ _slot ∈ lesson.slot, ∃ room ∈ lesson.room, ∃ capacity ∈ room.capacity,
    ∃ students ∈ lesson.schoolClass.studentCount, capacity < students
deriving Decidable

def Preferred : Prop :=
  ∃ slot ∈ lesson.slot, ∃ teacher ∈ lesson.teacher, slotKey slot.day slot.period ∈ teacher.preferred
deriving Decidable

/-- The lesson opens a day of a class that has a class teacher, and another teacher gives it. -/
def OpensWithoutClassTeacher : Prop :=
  ∃ slot ∈ lesson.slot, slot.period = 1 ∧ ∃ teacher ∈ lesson.teacher,
    ∃ own ∈ lesson.schoolClass.classTeacher, teacher.id ≠ own
deriving Decidable

section Placed

variable {lesson first second} {own other : TimeSlot} (firstPlaced : first.slot = some own)
  (secondPlaced : second.slot = some other)

include firstPlaced secondPlaced

theorem shares_day_iff : first.SharesDay second ↔ own.day = other.day ∧ first.overlaps second := by
  have week : first.overlaps second ↔ first.SharesWeek second :=
    WeekPattern.overlaps_iff first.pattern second.pattern
  rw [week]
  simp [SharesDay, firstPlaced, secondPlaced, and_comm]

theorem shares_slot_iff : first.SharesSlot second ↔ first.SharesDay second ∧ own.id = other.id := by
  simp [SharesSlot, SharesDay, firstPlaced, secondPlaced, and_assoc]

end Placed

section Given

variable {lesson} {slot : TimeSlot} {teacher : Teacher} (placed : lesson.slot = some slot)
  (given : lesson.teacher = some teacher)

include placed given

theorem teacher_away_iff : lesson.TeacherAway ↔ teacher.isBlockedAt slot := by
  simp [Teacher.isBlockedAt, TimeSlot.key, TeacherAway, placed, given]

theorem teacher_unqualified_iff : lesson.TeacherUnqualified ↔
    !teacher.isQualifiedFor lesson.subject.id lesson.schoolClass.grade := by
  unfold Teacher.isQualifiedFor TeacherUnqualified
  cases found : teacher.qualifications.lookup lesson.subject.id <;> simp [placed, given, found]

theorem preferred_iff : lesson.Preferred ↔ teacher.prefers slot := by
  simp [Teacher.prefers, TimeSlot.key, Preferred, placed, given]

theorem opens_without_class_teacher_iff : lesson.OpensWithoutClassTeacher ↔
    slot.period = 1 ∧ lesson.schoolClass.classTeacher.any fun own => teacher.id != own := by
  simp [OpensWithoutClassTeacher, placed, given, Option.any_eq_true]

end Given

theorem room_too_small_iff {lesson : Lesson} {slot : TimeSlot} (placed : lesson.slot = some slot) :
    lesson.RoomTooSmall ↔ lesson.room.any fun room => roomIsTooSmall room lesson.schoolClass := by
  simp only [Option.any_eq_true, room_is_too_small_iff, RoomTooSmall, placed]
  simp

end Lesson

def positionPairs {Member : Type} (members : List Member) :
    Finset (Fin members.length × Fin members.length) :=
  {pair | pair.1 < pair.2}

section Counts

variable (lessons : List Lesson)

def countLessons (counted : Lesson → Prop) [DecidablePred counted] : Nat :=
  #{position : Fin lessons.length | counted lessons[position]}

def countPairs (counted : Lesson → Lesson → Prop) [DecidableRel counted] : Nat :=
  #{pair ∈ positionPairs lessons | counted lessons[pair.1] lessons[pair.2]}

def countFaults : Nat :=
  countPairs lessons (fun first second => first.SharesSlot second ∧ first.SharesTeacher second) +
    countPairs lessons (fun first second => first.SharesSlot second ∧ first.SharesRoom second) +
    countPairs lessons (fun first second => first.SharesSlot second ∧ first.SharesClass second) +
    countLessons lessons Lesson.TeacherAway + countLessons lessons Lesson.TeacherUnqualified +
    countLessons lessons Lesson.RoomTooSmall

def countIdlePeriods : Int :=
  ∑ pair ∈ positionPairs lessons with lessons[pair.1].SharesDay lessons[pair.2] ∧
    lessons[pair.1].SharesTeacher lessons[pair.2], lessons[pair.1].idleBetween lessons[pair.2]

end Counts

section Matches

theorem total_score_append (first second : List Impact) :
    totalScore (first ++ second) = totalScore first + totalScore second := by
  simp only [total_score_eq, List.map_append, List.sum_append]

theorem total_score_impact_if (condition : Bool) (constraint : Constraint) (score : Score) :
    totalScore (impactIf condition constraint score) = if condition then score else 0 := by
  cases condition
  · rfl
  · simp [impactIf, total_score_eq]

/-- A condition may be asked more widely if the points are zero where it was not asked before. -/
theorem if_of_soft_eq {narrow wide : Prop} [Decidable narrow] [Decidable wide] {points : Int}
    (widens : narrow → wide) (idle : wide → ¬narrow → points = 0) :
    (if narrow then Score.ofSoft points else 0) = if wide then Score.ofSoft points else 0 := by
  by_cases asked : narrow
  · rw [if_pos asked, if_pos (widens asked)]
  · rw [if_neg asked]
    by_cases asks : wide
    · rw [if_pos asks, idle asks asked]
      rfl
    · rw [if_neg asks]

/-- What a lesson scores by itself is what each requirement on a lesson gives or takes; a weight of zero
needs no case of its own. -/
theorem lesson_score_eq (weights : Weights) (lesson : Lesson) : lessonScore weights lesson =
    (if lesson.TeacherAway then .oneHard else 0) + (if lesson.TeacherUnqualified then .oneHard else 0) +
      (if lesson.RoomTooSmall then .oneHard else 0) +
      (if lesson.Preferred then .ofSoft weights.preferredSlot else 0) +
      (if lesson.OpensWithoutClassTeacher then .ofSoft (-weights.firstPeriod) else 0) := by
  unfold lessonScore lessonMatches
  cases placed : lesson.slot with
  | none =>
      simp [Lesson.TeacherAway, Lesson.TeacherUnqualified, Lesson.RoomTooSmall, Lesson.Preferred,
        Lesson.OpensWithoutClassTeacher, placed]
      rfl
  | some slot =>
      have room := Lesson.room_too_small_iff placed
      cases given : lesson.teacher with
      | none =>
          simp [total_score_impact_if, room, Lesson.TeacherAway, Lesson.TeacherUnqualified,
            Lesson.Preferred, Lesson.OpensWithoutClassTeacher, given]
      | some teacher =>
          simp only [Option.toList_some, List.flatMap_cons, List.flatMap_nil, List.append_nil,
            teacherFaults, teacherPreferences, total_score_append, total_score_impact_if, room,
            Lesson.teacher_away_iff placed given, Lesson.teacher_unqualified_iff placed given,
            Lesson.preferred_iff placed given, Lesson.opens_without_class_teacher_iff placed given,
            Bool.and_eq_true, beq_iff_eq, bne_iff_ne, and_assoc]
          -- The evaluation asks for a wish only under its weight, without which it is worth nothing.
          rw [← add_assoc]
          congr 1
          · congr 1
            apply if_of_soft_eq (fun asked => asked.2)
            intro likes unasked
            by_contra points
            exact unasked ⟨points, likes⟩
          · apply if_of_soft_eq (fun asked => asked.2)
            intro opening unasked
            by_contra points
            exact unasked ⟨fun none => points (by simp [none]), opening⟩

theorem pair_score_eq (weights : Weights) (first second : Lesson) : pairScore weights first second =
    (if first.SharesSlot second ∧ first.SharesTeacher second then .oneHard else 0) +
      (if first.SharesSlot second ∧ first.SharesRoom second then .oneHard else 0) +
      (if first.SharesSlot second ∧ first.SharesClass second then .oneHard else 0) +
      (if first.SharesDay second ∧ first.SharesTeacher second then
        .ofSoft (-weights.gap * first.idleBetween second) else 0) +
      (if first.Repeats second then .ofSoft (-weights.distribution) else 0) := by
  unfold pairScore pairMatches
  cases firstPlaced : first.slot with
  | none =>
      simp [Lesson.SharesSlot, Lesson.SharesDay, Lesson.Repeats, firstPlaced]
      rfl
  | some own =>
      cases secondPlaced : second.slot with
      | none =>
          simp [Lesson.SharesSlot, Lesson.SharesDay, Lesson.Repeats, secondPlaced]
          rfl
      | some other =>
          have day := Lesson.shares_day_iff firstPlaced secondPlaced
          have slot := Lesson.shares_slot_iff firstPlaced secondPlaced
          have idle : idlePeriods own.period other.period = first.idleBetween second := by
            simp only [Lesson.idleBetween, idlePeriods, firstPlaced, secondPlaced, Int.abs_eq_natAbs]
          by_cases meets : first.SharesDay second
          · have meet := day.1 meets
            simp only [meet.1, meet.2, slot, meets, beq_self_eq_true, Bool.and_self, ↓reduceIte,
              true_and, Lesson.Repeats, meetingMatches, total_score_append, total_score_impact_if,
              Bool.and_eq_true, beq_iff_eq, Lesson.same_teacher_iff, Lesson.same_room_iff,
              Lesson.same_class_iff, idle, bne_iff_ne, decide_eq_true_eq]
            -- Again nothing is lost without a weight, nor by a gap without idle periods.
            have nonneg : 0 ≤ first.idleBetween second := by
              rw [← idle]
              exact le_max_left _ _
            congr 1
            · congr 1
              apply if_of_soft_eq (fun asked => asked.1.1)
              intro teacher unasked
              by_contra points
              have weighs : weights.gap ≠ 0 := fun none => points (by simp [none])
              have idles : first.idleBetween second ≠ 0 := fun none => points (by simp [none])
              exact unasked ⟨⟨teacher, weighs⟩, lt_of_le_of_ne nonneg idles.symm⟩
            · apply if_of_soft_eq (fun asked => ⟨asked.1.1, asked.2⟩)
              intro repeated unasked
              by_contra points
              have weighs : weights.distribution ≠ 0 := fun none => points (by simp [none])
              exact unasked ⟨⟨repeated.1, weighs⟩, repeated.2⟩
          · have apart : (own.day == other.day && first.overlaps second) = false := by
              rw [day] at meets
              simpa using meets
            simp [apart, slot, meets, Lesson.Repeats]
            rfl

end Matches

section Sums

variable {Position : Type} (positions : Finset Position)

theorem sum_if_eq_card_nsmul (asked : Position → Prop) [DecidablePred asked] (score : Score) :
    ∑ position ∈ positions, (if asked position then score else 0) =
      #{position ∈ positions | asked position} • score := by
  rw [← sum_filter, sum_const]

theorem sum_of_soft (points : Position → Int) :
    ∑ position ∈ positions, Score.ofSoft (points position) =
      .ofSoft (∑ position ∈ positions, points position) :=
  (map_sum (AddMonoidHom.mk' Score.ofSoft fun _ _ => rfl) points positions).symm

end Sums

/-- The evaluation counts every position once and every pair of positions once. -/
theorem full_score_eq_sums (weights : Weights) (lessons : List Lesson) : fullScore weights lessons =
    ∑ position : Fin lessons.length, lessonScore weights lessons[position] +
      ∑ pair ∈ positionPairs lessons, pairScore weights lessons[pair.1] lessons[pair.2] := by
  rw [full_score_eq_score_on, scoreOn, positionPairs, sum_filter, Fintype.sum_prod_type, sum_range,
    sum_range]
  congr 1
  · apply sum_congr rfl
    intro position _
    simp [lessonScoreAt]
  · apply sum_congr rfl
    intro left _
    rw [sum_filter, sum_range]
    apply sum_congr rfl
    intro right _
    simp [pairScoreAt]

theorem full_score_eq_counts (weights : Weights) (lessons : List Lesson) : fullScore weights lessons =
    { hard := -countFaults lessons
      soft := weights.preferredSlot * countLessons lessons Lesson.Preferred -
        weights.gap * countIdlePeriods lessons -
        weights.distribution * countPairs lessons Lesson.Repeats -
        weights.firstPeriod * countLessons lessons Lesson.OpensWithoutClassTeacher } := by
  rw [full_score_eq_sums]
  simp only [lesson_score_eq, pair_score_eq, sum_add_distrib, sum_if_eq_card_nsmul]
  rw [← sum_filter, sum_of_soft, ← mul_sum]
  apply Score.ext_parts
  · simp only [Score.add_hard, Score.nsmul_hard, Score.oneHard, Score.ofSoft, countFaults,
      countLessons, countPairs]
    push_cast
    ring
  · simp only [Score.add_soft, Score.nsmul_soft, Score.oneHard, Score.ofSoft, countIdlePeriods,
      countLessons, countPairs]
    ring

section Order

variable {Member Value : Type} [AddCommMonoid Value] (amount : Member → Member → Value)

theorem sum_position_pairs_cons (first : Member) (rest : List Member) :
    ∑ pair ∈ positionPairs (first :: rest), amount (first :: rest)[pair.1] (first :: rest)[pair.2] =
      (rest.map (amount first)).sum +
        ∑ pair ∈ positionPairs rest, amount rest[pair.1] rest[pair.2] := by
  simp only [positionPairs, sum_filter, Fintype.sum_prod_type, List.length_cons, Fin.sum_univ_succ]
  simp [Fin.sum_univ_fun_getElem]

theorem sum_position_pairs_of_perm
    (symmetric : ∀ first second, amount first second = amount second first) {members others : List Member}
    (same : members.Perm others) :
    ∑ pair ∈ positionPairs members, amount members[pair.1] members[pair.2] =
      ∑ pair ∈ positionPairs others, amount others[pair.1] others[pair.2] := by
  -- Only an exchange of two neighbours needs that a pair has no order.
  induction same with
  | nil => rfl
  | cons first same ih =>
      rw [sum_position_pairs_cons, sum_position_pairs_cons, ih, (same.map (amount first)).sum_eq]
  | swap first second rest =>
      simp only [sum_position_pairs_cons, List.map_cons, List.sum_cons, symmetric second first]
      simp only [add_assoc, add_left_comm]
  | trans _ _ ih rest => exact ih.trans rest

end Order

theorem full_score_of_perm (weights : Weights) {lessons others : List Lesson}
    (same : lessons.Perm others) : fullScore weights lessons = fullScore weights others := by
  rw [full_score_eq_sums, full_score_eq_sums,
    sum_position_pairs_of_perm _ (pair_score_swap weights) same]
  congr 1
  simp only [Fin.getElem_fin]
  rw [Fin.sum_univ_fun_getElem, Fin.sum_univ_fun_getElem, (same.map (lessonScore weights)).sum_eq]

/-- The score of a timetable is what the naive counts are worth under the weights. The buckets lose no
pair that matches and hold none twice, and the order of the lessons does not matter. -/
theorem Timetable.full_score_is_counted (timetable : Timetable) :
    (∀ weights, timetable.fullScore weights =
      { hard := -countFaults timetable.lessons
        soft := weights.preferredSlot * countLessons timetable.lessons Lesson.Preferred -
          weights.gap * countIdlePeriods timetable.lessons -
          weights.distribution * countPairs timetable.lessons Lesson.Repeats -
          weights.firstPeriod * countLessons timetable.lessons Lesson.OpensWithoutClassTeacher }) ∧
    (∀ weights, ∀ pair ∈ positionPairs timetable.lessons,
      pairMatches weights timetable.lessons[pair.1] timetable.lessons[pair.2] ≠ [] →
        (pair.1.val, pair.2.val) ∈ candidatePairs timetable.lessons) ∧
    ((candidatePairs timetable.lessons).Nodup ∧
      ∀ pair ∈ candidatePairs timetable.lessons, pair.1 < pair.2) ∧
    ∀ weights lessons, lessons.Perm timetable.lessons →
      { timetable with lessons := lessons }.fullScore weights = timetable.fullScore weights := by
  refine ⟨fun weights => full_score_eq_counts weights timetable.lessons, ?_, ⟨?_, ?_⟩, ?_⟩
  · intro weights pair listed matched
    have below : pair.1 < pair.2 := (mem_filter.1 listed).2
    have shared : timetable.lessons[pair.1].SharesKey timetable.lessons[pair.2] := by
      by_contra apart
      exact matched (pair_matches_of_no_shared_key weights apart)
    exact (mem_candidate_pairs timetable.lessons pair.1 pair.2).2
      ⟨below, _, _, List.getElem?_eq_getElem pair.1.isLt, List.getElem?_eq_getElem pair.2.isLt, shared⟩
  · exact nodup_candidate_pairs timetable.lessons
  · intro pair listed
    exact ((mem_candidate_pairs timetable.lessons pair.1 pair.2).1 listed).1
  · intro weights lessons same
    exact full_score_of_perm weights same

end SchoolTimetable
