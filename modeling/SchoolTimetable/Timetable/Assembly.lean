import SchoolTimetable.Config
import SchoolTimetable.Problem.Basic
import SchoolTimetable.Timetable.Basic

/-!
Assembly of a timetable from the snapshot of a term: one lesson per required hour, with the teachers
and rooms that can serve it. Snapshots that cannot be scheduled whatever the search does are refused
with all their faults; fixed teachers with too many hours give warnings.
-/

namespace SchoolTimetable

inductive AssemblyFault where
  | nothingRequired (term : String)
  | classOverfull (schoolClass : String) (needed : Int) (slots : Nat)
  | noTeacher (requirement : String) (subject : String) (grade : Int)
  | noRoom (requirement : String) (subject : String)
deriving DecidableEq, Repr

def AssemblyFault.message : AssemblyFault → String
  | .nothingRequired term => s!"No lessons to solve for term '{term}'"
  | .classOverfull schoolClass needed slots =>
      s!"Class '{schoolClass}' needs {needed} slots but the term only has {slots} non-break slots"
  | .noTeacher requirement subject grade =>
      s!"Requirement {requirement}: no qualified teacher for '{subject}' in grade {grade}"
  | .noRoom requirement subject => s!"Requirement {requirement}: no room suitable for '{subject}'"

inductive WorkloadWarning where
  | weekly (teacher : String) (halfHours : Int) (greatest : Int)
  | ofSubject (teacher : String) (halfHours : Int) (subject : String) (greatest : Int)
deriving DecidableEq, Repr

def halfHoursText (halfHours : Int) : String :=
  Number.generalText (((Number.ofInt? halfHours).getD 0) / 2)

def WorkloadWarning.message : WorkloadWarning → String
  | .weekly teacher halfHours greatest =>
      let hours := halfHoursText halfHours
      s!"Teacher '{teacher}' has {hours} fixed hours but max is {greatest}"
  | .ofSubject teacher halfHours subject greatest =>
      let hours := halfHoursText halfHours
      s!"Teacher '{teacher}' has {hours} fixed hours of '{subject}' but the qualification allows {greatest}"

namespace Problem

def buildSlots (problem : Problem) : List TimeSlot :=
  problem.assignableSlots.map fun entry =>
    ⟨entry.id, entry.day, entry.period, entry.start, entry.finish⟩

def buildRooms (problem : Problem) : List Room :=
  (problem.rooms.filter (·.active)).map fun entry =>
    ⟨entry.id, preferText entry.name entry.id, entry.capacity, entry.suitableSubjects⟩

def buildSubjects (problem : Problem) : List Subject :=
  problem.subjects.map fun entry => ⟨entry.id, entry.name, entry.abbreviation⟩

def buildClasses (problem : Problem) : List SchoolClass :=
  (problem.classes.filter (·.active)).map fun entry =>
    ⟨entry.id, entry.name, entry.grade, entry.studentCount, entry.classTeacher⟩

/-- The keys of the slots at which a teacher has an availability of a kind, in every term or in this
one. -/
def availabilityKeys (problem : Problem) (teacher : String) (kind : AvailabilityKind) : List String :=
  (problem.availabilities.filter fun record =>
    record.teacher == teacher && record.kind == kind &&
      (record.term.isNone || record.term == some problem.term)).map (·.key)

/-- The grades of each subject a teacher is qualified for, by the last record on the subject. -/
def gradesBySubject (problem : Problem) (teacher : String) : List (String × List Int) :=
  Entries.ofList ((problem.qualifications.filter (·.teacher == teacher)).map fun record =>
    (record.subject, record.grades.getD []))

/-- The level of a teacher in a subject by the last record, as a rank; without a record the last. -/
def rankOf (problem : Problem) (subject teacher : String) : Nat :=
  match (problem.qualifications.filter fun record =>
      record.teacher == teacher && record.subject == subject).getLast? with
  | some record => record.level.rank
  | none => 3

/-- The cap on a teacher's hours in a subject by the last record that states one. -/
def subjectCap? (problem : Problem) (teacher subject : String) : Option Int :=
  ((problem.qualifications.filter fun record =>
    record.teacher == teacher && record.subject == subject).filterMap (·.maxHours)).getLast?

/-- Teachers with their availability and qualifications; a slot that is blocked is not preferred. -/
def buildTeachers (problem : Problem) : List Teacher :=
  (problem.teachers.filter (·.active)).map fun entry =>
    let blocked := problem.availabilityKeys entry.id .blocked
    let preferred := problem.availabilityKeys entry.id .preferred
    { id := entry.id
      name := entry.name
      abbreviation := entry.abbreviation
      maxHours := entry.maxHours
      blocked := blocked
      preferred := preferred.filter fun key => !blocked.contains key
      qualifications := problem.gradesBySubject entry.id }

/-- The teachers that a requirement allows: those it names, or all of them. -/
def allowedTeachers (teachers : List Teacher) (requirement : Requirement) : List Teacher :=
  if requirement.candidates.isEmpty then teachers
  else requirement.candidates.filterMap fun id => teachers.find? (·.id == id)

/-- The qualified teachers for a requirement of a class, best qualified first; equally qualified ones
keep the order in which they are allowed. -/
def candidateTeachers (problem : Problem) (teachers : List Teacher) (requirement : Requirement)
    (grade : Int) : List Teacher :=
  ((allowedTeachers teachers requirement).filter fun teacher =>
    teacher.isQualifiedFor requirement.subject grade).mergeSort fun first second =>
      problem.rankOf requirement.subject first.id ≤ problem.rankOf requirement.subject second.id

/-- The first of a key and its numbered variants that is not in use. Of one more text than there are
in use one is free. -/
def freePrefix (used : List String) (key : String) : String :=
  let variants := key :: (List.range used.length).map fun index : Nat =>
    let number := index + 2
    s!"{key}-r{number}"
  (variants.find? fun candidate => !used.contains candidate).getD key

/-- The prefixes of lesson ids, given those in use: one for each requirement. -/
def lessonPrefixes (used : List String) : List Requirement → List String
  | [] => []
  | requirement :: rest =>
      let free := freePrefix used requirement.key
      free :: lessonPrefixes (free :: used) rest

def hoursOf (requirements : List Requirement) (pattern : WeekPattern) : Int :=
  Requirement.totalHours (requirements.filter (·.pattern == pattern))

/-- The slots that requirements of one class need: an A and a B lesson can share one. -/
def slotsNeeded (requirements : List Requirement) : Int :=
  hoursOf requirements .every + max (hoursOf requirements .a) (hoursOf requirements .b)

/-- Active classes that need more slots than there are, by their first requirement. -/
def overfullClasses (problem : Problem) : List AssemblyFault :=
  let slots := problem.buildSlots.length
  let active := problem.buildClasses.map (·.id)
  let groups := Entries.group (·.schoolClass)
    (problem.requirements.filter fun requirement => active.contains requirement.schoolClass)
  groups.filterMap fun (schoolClass, requirements) =>
    let needed := slotsNeeded requirements
    if (slots : Int) < needed then some (.classOverfull schoolClass needed slots) else none

/-- The lessons of one requirement, one per weekly hour, each with the best teacher for a start. -/
def lessonsOf (idPrefix : String) (requirement : Requirement) (schoolClass : SchoolClass)
    (subject : Subject) (teachers : List Teacher) (rooms : List Room) : List Lesson :=
  (List.range requirement.weeklyHours.toNat).map fun hour : Nat =>
    let number := hour + 1
    { id := s!"{idPrefix}-{number}"
      schoolClass := schoolClass
      subject := subject
      pattern := requirement.pattern
      candidateTeachers := teachers
      candidateRooms := rooms
      placement := ⟨none, none, teachers.head?⟩ }

structure Facts where
  classes : List SchoolClass
  subjects : List Subject
  teachers : List Teacher
  rooms : List Room

def facts (problem : Problem) : Facts :=
  ⟨problem.buildClasses, problem.buildSubjects, problem.buildTeachers, problem.buildRooms⟩

/-- The lessons of a requirement, or why there are none. An inactive class has none and no fault; a
subject is always found in a checked snapshot. -/
def requirementLessons (problem : Problem) (allowUnresourced : Bool) (facts : Facts)
    (requirement : Requirement) (idPrefix : String) : Except AssemblyFault (List Lesson) :=
  match facts.classes.find? (·.id == requirement.schoolClass),
      facts.subjects.find? (·.id == requirement.subject) with
  | some schoolClass, some subject =>
      let teachers := problem.candidateTeachers facts.teachers requirement schoolClass.grade
      let rooms := facts.rooms.filter fun room => room.suits subject.id
      if teachers.isEmpty then .error (.noTeacher requirement.key subject.name schoolClass.grade)
      else if rooms.isEmpty && !allowUnresourced then .error (.noRoom requirement.key subject.name)
      else .ok (lessonsOf idPrefix requirement schoolClass subject teachers rooms)
  | _, _ => .ok []

def lessonOutcomes (problem : Problem) (allowUnresourced : Bool) :
    List (Except AssemblyFault (List Lesson)) :=
  let facts := problem.facts
  (problem.requirements.zip (lessonPrefixes [] problem.requirements)).map fun (requirement, idPrefix) =>
    problem.requirementLessons allowUnresourced facts requirement idPrefix

/-- All faults: nothing required, then classes over their capacity, then requirements that cannot be
served. -/
def assemblyFaults (problem : Problem) (outcomes : List (Except AssemblyFault (List Lesson))) :
    List AssemblyFault :=
  (if problem.requirements.isEmpty then [.nothingRequired problem.term] else []) ++
    problem.overfullClasses ++
    outcomes.filterMap fun outcome =>
      match outcome with
      | .error fault => some fault
      | .ok _ => none

def assembledLessons (outcomes : List (Except AssemblyFault (List Lesson))) : List Lesson :=
  outcomes.flatMap fun outcome =>
    match outcome with
    | .ok lessons => lessons
    | .error _ => []

def halfHours (lesson : Lesson) : Int := if lesson.pattern == .every then 2 else 1

/-- Warnings on teachers whose fixed hours exceed their limit, then on those whose fixed hours in a
subject exceed the cap of their qualification, each in the order of first fixed lessons. -/
def workloadWarnings (problem : Problem) (lessons : List Lesson) : List WorkloadWarning :=
  let fixed := lessons.filterMap fun lesson =>
    match lesson.candidateTeachers with
    | [teacher] => some (teacher, lesson)
    | _ => none
  let teacher? := fun id : String => (fixed.find? fun pair => pair.1.id == id).map (·.1)
  let weekly := Entries.totals (fun pair => pair.1.id) (fun pair => halfHours pair.2) fixed
  let perSubject := Entries.totals (fun pair => (pair.1.id, pair.2.subject.id))
    (fun pair => halfHours pair.2) fixed
  (weekly.filterMap fun (id, hours) => do
    let teacher ← teacher? id
    if 2 * teacher.maxHours < hours then some (.weekly teacher.name hours teacher.maxHours)
    else none) ++
  perSubject.filterMap fun ((id, subject), hours) => do
    let teacher ← teacher? id
    let cap ← problem.subjectCap? id subject
    if 2 * cap < hours then some (.ofSubject teacher.name hours subject cap) else none

def timetableOf (problem : Problem) (lessons : List Lesson) : Timetable :=
  { term := problem.term
    slots := problem.buildSlots
    rooms := problem.buildRooms
    teachers := problem.buildTeachers
    classes := problem.buildClasses
    subjects := problem.buildSubjects
    lessons := lessons
    score := none
    isFinal := false }

def assemble (problem : Problem) (config : Config) :
    Except (List AssemblyFault) (Timetable × List WorkloadWarning) :=
  let outcomes := problem.lessonOutcomes config.allowUnresourced
  match problem.assemblyFaults outcomes with
  | [] =>
      let lessons := assembledLessons outcomes
      .ok (problem.timetableOf lessons, problem.workloadWarnings lessons)
  | faults => .error faults

end Problem

def assemblyMessage (faults : List AssemblyFault) : String :=
  itemized "Problem assembly failed" (faults.map (·.message))

end SchoolTimetable
