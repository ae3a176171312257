import SchoolTimetable.Facts
import SchoolTimetable.Json.Basic
import SchoolTimetable.Timetable.Fault

/-!
Timetables: all lessons of one term with the facts they refer to. A lesson has fixed parts and a
placement, the slot, room and teacher that the search assigns.
-/

namespace SchoolTimetable

/-- What the search assigns to a lesson; each part may still be open. -/
structure Placement where
  slot : Option TimeSlot
  room : Option Room
  teacher : Option Teacher
deriving DecidableEq, Repr

structure Lesson where
  id : String
  schoolClass : SchoolClass
  subject : Subject
  pattern : WeekPattern
  candidateTeachers : List Teacher
  candidateRooms : List Room
  placement : Placement
deriving DecidableEq, Repr

namespace Lesson

def slot (lesson : Lesson) : Option TimeSlot := lesson.placement.slot

def room (lesson : Lesson) : Option Room := lesson.placement.room

def teacher (lesson : Lesson) : Option Teacher := lesson.placement.teacher

def placed (lesson : Lesson) (placement : Placement) : Lesson := { lesson with placement := placement }

def teacherIsFixed (lesson : Lesson) : Bool := lesson.candidateTeachers.length == 1

def overlaps (first second : Lesson) : Bool := first.pattern.overlaps second.pattern

def text (lesson : Lesson) : String :=
  let parts := [s!"{lesson.subject.text}@{lesson.schoolClass.name}"] ++
    (lesson.slot.map (·.text)).toList ++ (lesson.room.map (·.name)).toList
  " ".intercalate parts

end Lesson

abbrev Snapshot := List Placement

structure Timetable where
  term : String
  slots : List TimeSlot
  rooms : List Room
  teachers : List Teacher
  classes : List SchoolClass
  subjects : List Subject
  lessons : List Lesson
  score : Option Score
  isFinal : Bool
deriving DecidableEq, Repr

namespace Timetable

def freeze (timetable : Timetable) : Timetable := { timetable with isFinal := true }

def lesson? (timetable : Timetable) (id : String) : Option Lesson :=
  timetable.lessons.find? (·.id == id)

def position? (timetable : Timetable) (id : String) : Option Nat :=
  timetable.lessons.findIdx? (·.id == id)

def snapshot (timetable : Timetable) : Snapshot := timetable.lessons.map (·.placement)

def lessonsWith (timetable : Timetable) (snapshot : Snapshot) : List Lesson :=
  timetable.lessons.zipWith Lesson.placed snapshot

def checkSnapshot (timetable : Timetable) (snapshot : Snapshot) : Except PlanningFault Unit :=
  if snapshot.length = timetable.lessons.length then .ok ()
  else .error (.snapshotLength snapshot.length timetable.term timetable.lessons.length)

def restore (timetable : Timetable) (snapshot : Snapshot) : Except PlanningFault Timetable := do
  if timetable.isFinal then throw (.finalTimetable timetable.term)
  timetable.checkSnapshot snapshot
  return { timetable with lessons := timetable.lessonsWith snapshot }

def copyWith (timetable : Timetable) (snapshot : Snapshot) (score : Option Score) :
    Except PlanningFault Timetable := do
  timetable.checkSnapshot snapshot
  return { timetable with
    lessons := timetable.lessonsWith snapshot
    score := score
    isFinal := true }

def unassigned (timetable : Timetable) : List Lesson := timetable.lessons.filter (·.slot.isNone)

/-- The counts that describe a timetable at a glance, unless its score is too long for a text. -/
def summary? (timetable : Timetable) : Option Json := do
  let score ← timetable.score.mapM Score.text?
  return .obj [("term_id", .str timetable.term), ("lessons", .ofNat timetable.lessons.length),
    ("time_slots", .ofNat timetable.slots.length), ("rooms", .ofNat timetable.rooms.length),
    ("teachers", .ofNat timetable.teachers.length), ("classes", .ofNat timetable.classes.length),
    ("subjects", .ofNat timetable.subjects.length),
    ("unassigned", .ofNat timetable.unassigned.length),
    ("score", .ofOption .str score)]

end Timetable

end SchoolTimetable
