import SchoolTimetable.Problem.Catalog
import SchoolTimetable.Json.Printer
import SchoolTimetable.Score

/-!
The solution document: lesson records, the score with its breakdown, the violations, and the views
by class, teacher, room and day. Fields are written with capitals at their word borders; reading
also takes the names with underscores and passes over fields it does not know.
-/

namespace SchoolTimetable

open Record

inductive SolutionStatus where
  | feasible
  | infeasible
  | timeout
  | solving
deriving DecidableEq, Repr

def SolutionStatus.text : SolutionStatus → String
  | .feasible => "feasible"
  | .infeasible => "infeasible"
  | .timeout => "timeout"
  | .solving => "solving"

namespace Record

def solutionStatus : Reader SolutionStatus :=
  member ([.feasible, .infeasible, .timeout, .solving].map fun status : SolutionStatus =>
    (status.text, status))

end Record

/-- A required field written with capitals that is also read under its name with underscores. -/
def Record.Form.either {Value : Type} (name underscored : String) (read : Reader Value) : Form Value :=
  requiredAs name [underscored] read

/-- A field with a default that is also read under its name with underscores. -/
def Record.Form.eitherOr {Value : Type} (name underscored : String) (absent : Value)
    (read : Reader Value) : Form Value :=
  optionalAs name [underscored] absent read

structure LessonRecord where
  term : String
  lesson : String
  schoolClass : String
  subject : String
  teacher : Option String
  slot : String
  day : Int
  period : Int
  room : Option String
  pattern : WeekPattern
  className : Option String
  subjectName : Option String
  teacherName : Option String
  roomName : Option String
deriving DecidableEq, Repr

namespace LessonRecord

def form : Form LessonRecord :=
  LessonRecord.mk <$> Form.either "termId" "term_id" text <*>
    Form.either "lessonId" "lesson_id" text <*> Form.either "schoolClassId" "school_class_id" text <*>
    Form.either "subjectId" "subject_id" text <*>
    Form.either "teacherId" "teacher_id" (nullable text) <*>
    Form.either "timeSlotId" "time_slot_id" text <*> Form.either "dayOfWeek" "day_of_week" whole <*>
    Form.required "period" whole <*> Form.either "roomId" "room_id" (nullable text) <*>
    Form.either "weekPattern" "week_pattern" weekPattern <*>
    Form.eitherOr "schoolClassName" "school_class_name" none (nullable text) <*>
    Form.eitherOr "subjectName" "subject_name" none (nullable text) <*>
    Form.eitherOr "teacherName" "teacher_name" none (nullable text) <*>
    Form.eitherOr "roomName" "room_name" none (nullable text)

def read : Reader LessonRecord := form.lenient "LessonRecord"

def write (record : LessonRecord) : Json :=
  .obj [("termId", .str record.term), ("lessonId", .str record.lesson),
    ("schoolClassId", .str record.schoolClass), ("subjectId", .str record.subject),
    ("teacherId", .ofOption .str record.teacher), ("timeSlotId", .str record.slot),
    ("dayOfWeek", .int record.day), ("period", .int record.period),
    ("roomId", .ofOption .str record.room), ("weekPattern", .str record.pattern.text),
    ("schoolClassName", .ofOption .str record.className),
    ("subjectName", .ofOption .str record.subjectName),
    ("teacherName", .ofOption .str record.teacherName),
    ("roomName", .ofOption .str record.roomName)]

end LessonRecord

structure Violation where
  constraint : String
  hard : Bool
  score : String
  lessons : List String
deriving DecidableEq, Repr

namespace Violation

def form : Form Violation :=
  Violation.mk <$> Form.either "constraintName" "constraint_name" text <*>
    Form.required "hard" truth <*> Form.required "score" text <*>
    Form.either "affectedLessonIds" "affected_lesson_ids" textList

def read : Reader Violation := form.lenient "ConstraintViolation"

def write (violation : Violation) : Json :=
  .obj [("constraintName", .str violation.constraint), ("hard", .bool violation.hard),
    ("score", .str violation.score), ("affectedLessonIds", .list .str violation.lessons)]

end Violation

/-- A mapping with its entries in order, its keys written as text. -/
def Json.mapping {Key Value : Type} (writeKey : Key → String) (write : Value → Json)
    (entries : List (Key × Value)) : Json :=
  .obj (entries.map fun (key, value) => (writeKey key, write value))

structure ScoreSummary where
  hard : Int
  soft : Int
  satisfied : Bool
  constraints : List (String × Int)
deriving DecidableEq, Repr

namespace ScoreSummary

def form : Form ScoreSummary :=
  ScoreSummary.mk <$> Form.either "hardScore" "hard_score" whole <*>
    Form.either "softScore" "soft_score" whole <*>
    Form.either "hardConstraintsSatisfied" "hard_constraints_satisfied" truth <*>
    Form.eitherOr "constraintScores" "constraint_scores" [] (mappingOf text whole)

def read : Reader ScoreSummary := form.lenient "ScoreSummary"

def write (summary : ScoreSummary) : Json :=
  .obj [("hardScore", .int summary.hard), ("softScore", .int summary.soft),
    ("hardConstraintsSatisfied", .bool summary.satisfied),
    ("constraintScores", .mapping id .int summary.constraints)]

def scoreText? (summary : ScoreSummary) : Option String := (Score.mk summary.hard summary.soft).text?

end ScoreSummary

structure DaySchedule where
  day : Int
  dayName : String
  lessons : List LessonRecord
deriving DecidableEq, Repr

namespace DaySchedule

def form : Form DaySchedule :=
  DaySchedule.mk <$> Form.required "day" whole <*> Form.either "dayName" "day_name" text <*>
    Form.required "lessons" (listOf LessonRecord.read)

def read : Reader DaySchedule := form.lenient "DaySchedule"

def write (schedule : DaySchedule) : Json :=
  .obj [("day", .int schedule.day), ("dayName", .str schedule.dayName),
    ("lessons", .list LessonRecord.write schedule.lessons)]

end DaySchedule

structure EntitySchedule where
  id : String
  name : String
  lessons : List LessonRecord
  byDay : List (Int × List LessonRecord)
deriving DecidableEq, Repr

namespace EntitySchedule

def form : Form EntitySchedule :=
  EntitySchedule.mk <$> Form.required "id" text <*> Form.required "name" text <*>
    Form.required "lessons" (listOf LessonRecord.read) <*>
    Form.eitherOr "byDay" "by_day" [] (mappingOf whole (listOf LessonRecord.read))

def read : Reader EntitySchedule := form.lenient "EntitySchedule"

def write (schedule : EntitySchedule) : Json :=
  .obj [("id", .str schedule.id), ("name", .str schedule.name),
    ("lessons", .list LessonRecord.write schedule.lessons),
    ("byDay", .mapping toString (.list LessonRecord.write) schedule.byDay)]

end EntitySchedule

structure Views where
  byClass : List (String × EntitySchedule)
  byTeacher : List (String × EntitySchedule)
  byRoom : List (String × EntitySchedule)
  byDay : List (Int × DaySchedule)
deriving DecidableEq, Repr

namespace Views

def empty : Views := ⟨[], [], [], []⟩

def form : Form Views :=
  let schedules := mappingOf text EntitySchedule.read
  Views.mk <$> Form.eitherOr "byClass" "by_class" [] schedules <*>
    Form.eitherOr "byTeacher" "by_teacher" [] schedules <*>
    Form.eitherOr "byRoom" "by_room" [] schedules <*>
    Form.eitherOr "byDay" "by_day" [] (mappingOf whole DaySchedule.read)

def read : Reader Views := form.lenient "TimetableViews"

def write (views : Views) : Json :=
  .obj [("byClass", .mapping id EntitySchedule.write views.byClass),
    ("byTeacher", .mapping id EntitySchedule.write views.byTeacher),
    ("byRoom", .mapping id EntitySchedule.write views.byRoom),
    ("byDay", .mapping toString DaySchedule.write views.byDay)]

end Views

structure Solution where
  term : String
  status : SolutionStatus
  reason : Option String
  seconds : Float
  moves : Int
  score : ScoreSummary
  lessons : List LessonRecord
  violations : List Violation
  views : Views
deriving Repr

namespace Solution

def form : Form Solution :=
  Solution.mk <$> Form.either "termId" "term_id" text <*> Form.required "status" solutionStatus <*>
    Form.eitherOr "terminationReason" "termination_reason" none (nullable text) <*>
    Form.either "solveTimeSeconds" "solve_time_seconds" number <*>
    Form.eitherOr "movesEvaluated" "moves_evaluated" 0 whole <*>
    Form.required "score" ScoreSummary.read <*>
    Form.required "lessons" (listOf LessonRecord.read) <*>
    Form.optional "violations" [] (listOf Violation.read) <*>
    Form.optional "views" .empty Views.read

def title : String := "TimetableSolution"

def read : Reader Solution := form.lenient title

def write (solution : Solution) : Json :=
  .obj [("termId", .str solution.term), ("status", .str solution.status.text),
    ("terminationReason", .ofOption .str solution.reason),
    ("solveTimeSeconds", .float solution.seconds), ("movesEvaluated", .int solution.moves),
    ("score", solution.score.write), ("lessons", .list LessonRecord.write solution.lessons),
    ("violations", .list Violation.write solution.violations), ("views", solution.views.write)]

def text (indent : Option Nat) (solution : Solution) : String := solution.write.text indent

def isFeasible (solution : Solution) : Bool := solution.score.satisfied

end Solution

end SchoolTimetable
