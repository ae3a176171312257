import SchoolTimetable.Search.Solver
import SchoolTimetable.Solution.Document
import SchoolTimetable.Text.Itemized
import SchoolTimetable.Timetable.Evaluation

/-!
From a timetable to its solution document: one record per lesson in the order of the week, the share
of every constraint in the score, the violations, and the schedules of classes, teachers, rooms and
days.
-/

namespace SchoolTimetable

inductive Gap where
  | slot (lesson : String)
  | room (lesson : String)
  | teacher (lesson : String)
deriving DecidableEq, Repr

def Gap.message : Gap → String
  | .slot lesson => s!"{lesson}: no time slot"
  | .room lesson => s!"{lesson}: no room"
  | .teacher lesson => s!"{lesson}: no teacher"

structure UnresolvedLessons where
  term : String
  gaps : List Gap
deriving DecidableEq, Repr

def UnresolvedLessons.message (unresolved : UnresolvedLessons) : String :=
  let term := unresolved.term
  itemized s!"Timetable for term {term} has unresolved lessons" (unresolved.gaps.map (·.message))

inductive DocumentFault where
  | unresolved (lessons : UnresolvedLessons)
  /-- The score of a violation has too many digits for a text. -/
  | overlongScore
deriving DecidableEq, Repr

def DocumentFault.message : DocumentFault → String
  | .unresolved lessons => lessons.message
  | .overlongScore => Number.overlongMessage

/-- The first thing that a lesson lacks. Room and teacher may be missing where that is allowed. -/
def Lesson.gap? (allowUnresourced : Bool) (lesson : Lesson) : Option Gap :=
  if lesson.slot.isNone then some (.slot lesson.id)
  else if allowUnresourced then none
  else if lesson.room.isNone then some (.room lesson.id)
  else if lesson.teacher.isNone then some (.teacher lesson.id)
  else none

def Lesson.recordAt (lesson : Lesson) (term : String) (slot : TimeSlot) : LessonRecord :=
  { term := term
    lesson := lesson.id
    schoolClass := lesson.schoolClass.id
    subject := lesson.subject.id
    teacher := lesson.teacher.map (·.id)
    slot := slot.id
    day := slot.day
    period := slot.period
    room := lesson.room.map (·.id)
    pattern := lesson.pattern
    className := some lesson.schoolClass.name
    subjectName := some lesson.subject.name
    teacherName := lesson.teacher.map (·.name)
    roomName := lesson.room.map (·.name) }

namespace LessonRecord

def atMost (first second : LessonRecord) : Bool :=
  if first.day ≠ second.day then first.day < second.day
  else if first.period ≠ second.period then first.period < second.period
  else if first.schoolClass ≠ second.schoolClass then first.schoolClass < second.schoolClass
  else decide (first.subject ≤ second.subject)

/-- The records in their order; those that are equal in it stay as they are. -/
def inOrder (records : List LessonRecord) : List LessonRecord := records.mergeSort atMost

/-- Records in groups by a key that some of them may lack; those are left out. -/
def groupBy? {Key : Type} [DecidableEq Key] (key? : LessonRecord → Option Key)
    (records : List LessonRecord) : List (Key × List LessonRecord) :=
  let keyed := records.filterMap fun record => (key? record).map fun key => (key, record)
  (Entries.group (·.1) keyed).map fun (key, members) => (key, members.map (·.2))

def byClass (records : List LessonRecord) : List (String × List LessonRecord) :=
  Entries.group (·.schoolClass) records

def byTeacher (records : List LessonRecord) : List (String × List LessonRecord) :=
  groupBy? (·.teacher) records

def byRoom (records : List LessonRecord) : List (String × List LessonRecord) :=
  groupBy? (·.room) records

def byDay (records : List LessonRecord) : List (Int × List LessonRecord) :=
  Entries.group (·.day) records

end LessonRecord

/-- The records of all lessons in their order, unless a lesson lacks something. -/
def Timetable.records (timetable : Timetable) (allowUnresourced : Bool) :
    Except UnresolvedLessons (List LessonRecord) :=
  match timetable.lessons.filterMap (Lesson.gap? allowUnresourced) with
  | [] =>
      let records := timetable.lessons.filterMap fun lesson =>
        lesson.slot.map (lesson.recordAt timetable.term)
      .ok (LessonRecord.inOrder records)
  | gaps => .error ⟨timetable.term, gaps⟩

/-- The schedules of entities by their ids, each under the last name of its id or, without one, its id. -/
def entitySchedules (names : List (String × String)) (groups : List (String × List LessonRecord)) :
    List (String × EntitySchedule) :=
  let names := Entries.ofList names
  (Entries.sortByKey (· ≤ ·) groups).map fun (id, records) =>
    (id, ⟨id, (Entries.get? id names).getD id, records, LessonRecord.byDay records⟩)

def daySchedules (groups : List (Int × List LessonRecord)) : List (Int × DaySchedule) :=
  (Entries.sortByKey (· ≤ ·) groups).map fun (day, records) => (day, ⟨day, dayName day, records⟩)

def Timetable.views (timetable : Timetable) (records : List LessonRecord) : Views :=
  { byClass := entitySchedules (timetable.classes.map fun item => (item.id, item.name))
      (LessonRecord.byClass records)
    byTeacher := entitySchedules (timetable.teachers.map fun teacher => (teacher.id, teacher.name))
      (LessonRecord.byTeacher records)
    byRoom := entitySchedules (timetable.rooms.map fun room => (room.id, room.name))
      (LessonRecord.byRoom records)
    byDay := daySchedules (LessonRecord.byDay records) }

def constraintShares (summaries : List ConstraintSummary) : List (String × Int) :=
  (summaries.filter fun summary => summary.count ≠ 0).map fun summary =>
    (summary.constraint.name, summary.points)

/-- The matches that cost something, those of hard constraints first, each with whether it is of one. -/
def costlyMatches (summaries : List ConstraintSummary) : List (Bool × ConstraintMatch) :=
  let (hard, soft) := summaries.partition (·.constraint.isHard)
  (hard ++ soft).flatMap fun summary =>
    (summary.matched.filter fun found => found.score.hard < 0 || found.score.soft < 0).map fun found =>
      (summary.constraint.isHard, found)

/-- The violation that a match is, unless its score is too long for a text. -/
def ConstraintMatch.violation? (hard : Bool) (found : ConstraintMatch) : Option Violation :=
  found.score.text?.map fun score => ⟨found.constraint.name, hard, score, found.lessons⟩

def violationsOf? (summaries : List ConstraintSummary) : Option (List Violation) :=
  (costlyMatches summaries).mapM fun (hard, found) => found.violation? hard

def SolveOutcome.status : SolveOutcome → SolutionStatus
  | .feasible => .feasible
  | .infeasible => .infeasible
  | .timedOut => .timeout
  | .solving => .solving

/-- The document of a result that has records and violations. Its time is rounded to milliseconds. -/
def SolveResult.document (result : SolveResult) (summaries : List ConstraintSummary)
    (records : List LessonRecord) (violations : List Violation) : Solution where
  term := result.timetable.term
  status := result.outcome.status
  reason := result.reason.map (·.text)
  seconds := Number.roundPlaces 3 result.elapsed
  moves := result.evaluated
  score := ⟨result.score.hard, result.score.soft, result.isFeasible, constraintShares summaries⟩
  lessons := records
  violations := violations
  views := result.timetable.views records

def SolveResult.solution (result : SolveResult) (config : Config) : Except DocumentFault Solution :=
  match result.timetable.records config.allowUnresourced with
  | .error lessons => .error (.unresolved lessons)
  | .ok records =>
      let summaries := explainScore config.weights result.timetable.lessons
      match violationsOf? summaries with
      | some violations => .ok (result.document summaries records violations)
      | none => .error .overlongScore

end SchoolTimetable
