import SchoolTimetable.Config
import SchoolTimetable.Timetable.Basic

/-!
Constraints on timetables. A constraint judges a single lesson or an unordered pair of lessons;
lessons without a slot are not judged. Hard constraints cost one hard point for each match, soft
constraints what their weights say.
-/

namespace SchoolTimetable

inductive Constraint where
  | teacherConflict
  | roomConflict
  | classConflict
  | teacherAvailability
  | roomCapacity
  | teacherQualification
  | preferredSlots
  | teacherGap
  | subjectDistribution
  | firstPeriod
deriving DecidableEq, Repr

namespace Constraint

def hardOnes : List Constraint :=
  [.teacherConflict, .roomConflict, .classConflict, .teacherAvailability, .roomCapacity,
    .teacherQualification]

def softOnes : List Constraint := [.preferredSlots, .teacherGap, .subjectDistribution, .firstPeriod]

def all : List Constraint := hardOnes ++ softOnes

def isHard (constraint : Constraint) : Bool := hardOnes.contains constraint

def name : Constraint → String
  | .teacherConflict => "Teacher conflict"
  | .roomConflict => "Room conflict"
  | .classConflict => "Class conflict"
  | .teacherAvailability => "Teacher availability"
  | .roomCapacity => "Room capacity"
  | .teacherQualification => "Teacher qualification"
  | .preferredSlots => "Teacher preferred slots"
  | .teacherGap => "Teacher gap"
  | .subjectDistribution => "Subject distribution"
  | .firstPeriod => "Class teacher first period"

end Constraint

abbrev Impact := Constraint × Score

def impactIf (condition : Bool) (constraint : Constraint) (score : Score) : List Impact :=
  if condition then [(constraint, score)] else []

def totalScore (impacts : List Impact) : Score := Score.sum (impacts.map (·.2))

def teacherFaults (lesson : Lesson) (slot : TimeSlot) (teacher : Teacher) : List Impact :=
  impactIf (teacher.isBlockedAt slot) .teacherAvailability .oneHard ++
    impactIf (!teacher.isQualifiedFor lesson.subject.id lesson.schoolClass.grade)
      .teacherQualification .oneHard

/-- A room is too small if both its capacity and the count of students are known and say so. -/
def roomIsTooSmall (room : Room) (schoolClass : SchoolClass) : Bool :=
  match room.capacity, schoolClass.studentCount with
  | some capacity, some students => capacity < students
  | _, _ => false

def teacherPreferences (weights : Weights) (lesson : Lesson) (slot : TimeSlot) (teacher : Teacher) :
    List Impact :=
  impactIf (weights.preferredSlot != 0 && teacher.prefers slot) .preferredSlots
      (.ofSoft weights.preferredSlot) ++
    impactIf (weights.firstPeriod != 0 && slot.period == 1 &&
        lesson.schoolClass.classTeacher.any fun own => teacher.id != own)
      .firstPeriod (.ofSoft (-weights.firstPeriod))

def lessonMatches (weights : Weights) (lesson : Lesson) : List Impact :=
  match lesson.slot with
  | none => []
  | some slot =>
      (lesson.teacher.toList.flatMap (teacherFaults lesson slot)) ++
        impactIf (lesson.room.any fun room => roomIsTooSmall room lesson.schoolClass)
          .roomCapacity .oneHard ++
        lesson.teacher.toList.flatMap (teacherPreferences weights lesson slot)

def sameTeacher (first second : Lesson) : Bool :=
  match first.teacher, second.teacher with
  | some left, some right => left.id == right.id
  | _, _ => false

def sameRoom (first second : Lesson) : Bool :=
  match first.room, second.room with
  | some left, some right => left.id == right.id
  | _, _ => false

def sameClass (first second : Lesson) : Bool := first.schoolClass.id == second.schoolClass.id

def idlePeriods (first second : Int) : Int := max 0 (((first - second).natAbs : Int) - 1)

def meetingMatches (weights : Weights) (first second : Lesson) (slot other : TimeSlot) : List Impact :=
  let together := slot.id == other.id
  let idle := idlePeriods slot.period other.period
  impactIf (together && sameTeacher first second) .teacherConflict .oneHard ++
    impactIf (together && sameRoom first second) .roomConflict .oneHard ++
    impactIf (together && sameClass first second) .classConflict .oneHard ++
    impactIf (sameTeacher first second && weights.gap != 0 && 0 < idle) .teacherGap
      (.ofSoft (-weights.gap * idle)) ++
    impactIf (sameClass first second && weights.distribution != 0 &&
        first.subject.id == second.subject.id)
      .subjectDistribution (.ofSoft (-weights.distribution))

def pairMatches (weights : Weights) (first second : Lesson) : List Impact :=
  match first.slot, second.slot with
  | some slot, some other =>
      if slot.day == other.day && first.overlaps second then
        meetingMatches weights first second slot other
      else []
  | _, _ => []

def lessonScore (weights : Weights) (lesson : Lesson) : Score :=
  totalScore (lessonMatches weights lesson)

def pairScore (weights : Weights) (first second : Lesson) : Score :=
  totalScore (pairMatches weights first second)

end SchoolTimetable
