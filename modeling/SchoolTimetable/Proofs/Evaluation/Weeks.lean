import SchoolTimetable.Proofs.Evaluation.Feasibility

/-!
The two weeks that a school lives through in turn. Each week has a calendar, in which a lesson stands at
the day and slot it was placed in if its pattern runs in that week. Two patterns overlap if they run in a
week together, so a timetable loses no hard point exactly if neither calendar has a clash and every
placed lesson may be given by its teacher and held in its room.
-/

namespace SchoolTimetable

inductive Week where
  | a
  | b
deriving DecidableEq, Repr

namespace WeekPattern

def runsIn : WeekPattern → Week → Bool
  | .every, _ => true
  | .a, week => week == .a
  | .b, week => week == .b

theorem overlaps_iff (first second : WeekPattern) :
    first.overlaps second ↔ ∃ week, first.runsIn week ∧ second.runsIn week := by
  constructor
  · intro overlaps
    by_cases inFirst : first.runsIn .a ∧ second.runsIn .a
    · exact ⟨.a, inFirst⟩
    · refine ⟨.b, ?_⟩
      cases first <;> cases second <;> simp_all [runsIn, WeekPattern.overlaps]
  · rintro ⟨week, inFirst, inSecond⟩
    cases first <;> cases second <;> cases week <;> simp_all [runsIn, WeekPattern.overlaps]

end WeekPattern

namespace Lesson

def SharesTeacher (first second : Lesson) : Prop :=
  ∃ left ∈ first.teacher, ∃ right ∈ second.teacher, left.id = right.id

def SharesRoom (first second : Lesson) : Prop :=
  ∃ left ∈ first.room, ∃ right ∈ second.room, left.id = right.id

def SharesClass (first second : Lesson) : Prop := first.schoolClass.id = second.schoolClass.id

def SharesNothing (first second : Lesson) : Prop :=
  ¬first.SharesTeacher second ∧ ¬first.SharesRoom second ∧ ¬first.SharesClass second

theorem same_teacher_iff (first second : Lesson) :
    sameTeacher first second ↔ first.SharesTeacher second := by
  unfold sameTeacher SharesTeacher
  cases first.teacher <;> cases second.teacher <;> simp

theorem same_room_iff (first second : Lesson) : sameRoom first second ↔ first.SharesRoom second := by
  unfold sameRoom SharesRoom
  cases first.room <;> cases second.room <;> simp

theorem same_class_iff (first second : Lesson) : sameClass first second ↔ first.SharesClass second := by
  simp [sameClass, SharesClass]

def StandsAt (week : Week) (day : Int) (slot : String) (lesson : Lesson) : Prop :=
  lesson.pattern.runsIn week ∧ ∃ own ∈ lesson.slot, own.day = day ∧ own.id = slot
deriving Decidable

/-- The lesson is not placed, or its teacher may come and teach it and its room is large enough. -/
def MayBeHeld (lesson : Lesson) : Prop :=
  ∀ slot ∈ lesson.slot,
    (∀ teacher ∈ lesson.teacher, slotKey slot.day slot.period ∉ teacher.blocked ∧
      teacher.isQualifiedFor lesson.subject.id lesson.schoolClass.grade) ∧
    ∀ room ∈ lesson.room, ∀ capacity ∈ room.capacity, ∀ students ∈ lesson.schoolClass.studentCount,
      students ≤ capacity

end Lesson

def calendar (lessons : List Lesson) (week : Week) (day : Int) (slot : String) : List Lesson :=
  lessons.filter (Lesson.StandsAt week day slot ·)

/-- No two lessons at one place of a calendar share a teacher, a room or a class, and every lesson may be
held where it is. -/
structure ClashFree (lessons : List Lesson) : Prop where
  apart : ∀ week day slot, (calendar lessons week day slot).Pairwise Lesson.SharesNothing
  held : ∀ lesson ∈ lessons, lesson.MayBeHeld

theorem room_is_too_small_iff (room : Room) (schoolClass : SchoolClass) :
    roomIsTooSmall room schoolClass ↔
      ∃ capacity ∈ room.capacity, ∃ students ∈ schoolClass.studentCount, capacity < students := by
  unfold roomIsTooSmall
  cases room.capacity <;> cases schoolClass.studentCount <;> simp

theorem room_is_too_small_eq_false (room : Room) (schoolClass : SchoolClass) :
    roomIsTooSmall room schoolClass = false ↔
      ∀ capacity ∈ room.capacity, ∀ students ∈ schoolClass.studentCount, students ≤ capacity := by
  rw [← Bool.not_eq_true, room_is_too_small_iff]
  simp only [not_exists, not_and, not_lt]

theorem may_be_held_iff (lesson : Lesson) : lesson.MayBeHeld ↔ lesson.Faultless := by
  simp only [Lesson.MayBeHeld, Lesson.Faultless, room_is_too_small_eq_false, Teacher.isBlockedAt,
    TimeSlot.key, List.contains_eq_mem, decide_eq_false_iff_not]

/-- Two lessons are compatible if they are apart wherever both of them stand. -/
theorem compatible_iff (first second : Lesson) : first.Compatible second ↔
    ∀ week day slot, first.StandsAt week day slot → second.StandsAt week day slot →
      first.SharesNothing second := by
  have apart : (sameTeacher first second = false ∧ sameRoom first second = false ∧
      sameClass first second = false) ↔ first.SharesNothing second := by
    simp only [Lesson.SharesNothing, ← Lesson.same_teacher_iff, ← Lesson.same_room_iff,
      ← Lesson.same_class_iff, Bool.not_eq_true]
  constructor
  · rintro compatible week day slot ⟨firstRuns, own, placed, rfl, rfl⟩
      ⟨secondRuns, other, otherPlaced, sameDay, sameSlot⟩
    have overlaps := (WeekPattern.overlaps_iff _ _).2 ⟨week, firstRuns, secondRuns⟩
    exact apart.1 (compatible own placed other otherPlaced sameDay.symm sameSlot.symm overlaps)
  · intro elsewhere slot placed other otherPlaced sameDay sameSlot overlaps
    obtain ⟨week, firstRuns, secondRuns⟩ := (WeekPattern.overlaps_iff _ _).1 overlaps
    exact apart.2 (elsewhere week slot.day slot.id ⟨firstRuns, slot, placed, rfl, rfl⟩
      ⟨secondRuns, other, otherPlaced, sameDay.symm, sameSlot.symm⟩)

theorem pairwise_compatible_iff (lessons : List Lesson) : lessons.Pairwise Lesson.Compatible ↔
    ∀ week day slot, (calendar lessons week day slot).Pairwise Lesson.SharesNothing := by
  simp only [calendar, List.pairwise_filter, decide_eq_true_eq]
  simp only [List.pairwise_iff_getElem, compatible_iff]
  constructor
  · intro compatible week day slot left right leftBound rightBound before
    exact compatible left right leftBound rightBound before week day slot
  · intro apart left right leftBound rightBound before week day slot
    exact apart week day slot left right leftBound rightBound before

theorem hard_eq_zero_iff_clash_free (weights : Weights) (lessons : List Lesson) :
    (fullScore weights lessons).hard = 0 ↔ ClashFree lessons := by
  rw [(full_score_hard weights lessons).2, pairwise_compatible_iff]
  simp only [← may_be_held_iff]
  exact ⟨fun parts => ⟨parts.2, parts.1⟩, fun free => ⟨free.held, free.apart⟩⟩

end SchoolTimetable
