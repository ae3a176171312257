import SchoolTimetable.CommandLine.Console
import SchoolTimetable.Solution.Document

/-!
How solutions are shown: a summary, violations, the schedule of a class, teacher or room, the
schedule of a day, and the count of lessons in each period of the week.
-/

namespace SchoolTimetable.Command

def firstText (texts : List (Option String)) (otherwise : String) : String :=
  ((texts.filterMap id).find? (· ≠ "")).getD otherwise

def statusText : SolutionStatus → String
  | .feasible => "FEASIBLE"
  | .infeasible => "INFEASIBLE"
  | .timeout => "TIMEOUT"
  | .solving => "SOLVING"

/-- Shows how a solve went: status, score and counts, and the share of each constraint. -/
def showSummary (solution : Solution) : Command Unit := do
  let seconds := Number.fixedText 2 solution.seconds
  let reason := firstText [solution.reason] "still solving"
  showPanel s!"Term {solution.term}" (statusText solution.status)
    (some s!"Solved in {seconds}s ({reason})")
  let score ← written solution.score.scoreText?
  showTable ["Summary"]
    [["Score", score], ["Lessons", toString solution.lessons.length],
      ["Classes", toString solution.views.byClass.length],
      ["Teachers", toString solution.views.byTeacher.length],
      ["Rooms Used", toString solution.views.byRoom.length],
      ["Moves Evaluated", toString solution.moves]]
  unless solution.score.constraints.isEmpty do
    let shares ← solution.score.constraints.mapM fun (name, points) => do
      return [name, ← written (Number.wholeText? points)]
    showTable ["Constraint Scores", "Constraint Score"] shares

/-- Shows the first violations up to a limit, and how many more there are. -/
def showViolations (solution : Solution) (limit : Nat) : Command Unit := do
  if solution.violations.isEmpty then
    say "No violations."
  else
    showTable ["Violations", "Constraint Score Lessons"]
      ((solution.violations.take limit).map fun violation =>
        let style := if violation.hard then "red" else "yellow"
        [Markup.withStyle style violation.constraint, violation.score,
          ", ".intercalate violation.lessons])
    let more := solution.violations.length - limit
    if 0 < more then say s!"... and {more} more"

def classText (record : LessonRecord) : String := firstText [record.className] record.schoolClass

def subjectText (record : LessonRecord) : String := firstText [record.subjectName] record.subject

def teacherText (record : LessonRecord) : String := firstText [record.teacherName, record.teacher] "-"

def roomText (record : LessonRecord) : String := firstText [record.roomName, record.room] "-"

def showEntity (kind id : String) (schedules : List (String × EntitySchedule)) : Command Unit := do
  match schedules.lookup id with
  | none =>
      say s!"Error: {kind} '{id}' not found"
      let known := ", ".intercalate (schedules.map (·.1))
      say s!"Available: {known}"
      refuse
  | some schedule =>
      let name := Markup.withStyle "bold" schedule.name
      showPanel s!"{kind} Schedule" s!"{name} ({schedule.id})" none
      let days := Entries.sortByKey (· ≤ ·) schedule.byDay
      showTable ["Day Period Subject Class Teacher Room Week"]
        (days.flatMap fun (day, records) => records.map fun record =>
          [dayName day, toString record.period, subjectText record, classText record,
            teacherText record, roomText record, record.pattern.text])

def showDay (name : String) (solution : Solution) : Command Unit := do
  let lower := fun text : String => String.ofList (Text.lowerCase text.toList)
  match weekdayNames.findIdx? fun weekday => lower weekday == lower name with
  | none =>
      say s!"Error: Invalid day '{name}'"
      let valid := ", ".intercalate (weekdayNames.map lower)
      say s!"Valid days: {valid}"
      refuse
  | some index =>
      let day : Int := index
      match solution.views.byDay.lookup day with
      | none => say ("No lessons scheduled for " ++ dayName day)
      | some schedule =>
          showPanel "Daily Schedule" (Markup.withStyle "bold" schedule.dayName) none
          showTable ["Period Class Subject Teacher Room"]
            (schedule.lessons.map fun record =>
              [toString record.period, classText record, subjectText record, teacherText record,
                roomText record])

def shortDayName (day : Int) : String := String.ofList ((dayName day).toList.take 3)

def showOverview (solution : Solution) : Command Unit := do
  showSummary solution
  say "Weekly Overview:"
  let periods := Entries.ascending (· ≤ ·) (solution.lessons.map (·.period))
  let days := Entries.sortByKey (· ≤ ·) solution.views.byDay
  if periods.isEmpty || days.isEmpty then
    say "No lessons scheduled"
  else
    let heading := " ".intercalate ("Period" :: days.map fun (day, _) => shortDayName day)
    showTable ["Week Grid", heading]
      (periods.map fun period =>
        toString period :: days.map fun (_, schedule) =>
          let count := schedule.lessons.countP fun record => record.period = period
          if count = 0 then "-" else toString count)

end SchoolTimetable.Command
