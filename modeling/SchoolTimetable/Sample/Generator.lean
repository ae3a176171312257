import SchoolTimetable.Problem.Basic
import SchoolTimetable.Sample.Drawing
import SchoolTimetable.Sample.Settings
import SchoolTimetable.Sample.Stock

/-!
Sample schools. A school is drawn part by part: subjects, the weekly grid, teachers, classes with
their hours, qualifications that cover the demand, rooms and availability. Made entries are checked
like those that are read.
-/

namespace SchoolTimetable.Sample

variable {Source : Type} [RandomSource Source]

def subjects (settings : Settings) : Sampling Source (List StockSubject) := do
  if settings.hasSpecialSubjects then
    let count := min settings.specialSubjects specialistSubjects.length
    return coreSubjects ++ (← drawSome count specialistSubjects)
  else return coreSubjects

def StockSubject.entry (subject : StockSubject) : SubjectEntry :=
  ⟨subject.id, subject.name, some subject.abbreviation⟩

/-! The weekly grid -/

def microsPerMinute : Int := 60 * microsPerSecond

def microsPerDay : Int := secondsPerDay * microsPerSecond

def calendarDays : Int := 3652059

def greatestSpan : Int := 999999999

def span (minutes : Int) : Sampling Source Int := do
  let days := (minutes * microsPerMinute).fdiv microsPerDay
  if days < -greatestSpan ∨ greatestSpan < days then throw .outOfCalendar
  return minutes * microsPerMinute

def later (moment length : Int) : Sampling Source Int := do
  let reached := moment + length
  if reached < 0 ∨ calendarDays * microsPerDay ≤ reached then throw .outOfCalendar
  return reached

def timeOfDay (moment : Int) : Option ClockTime :=
  (ClockTime.ofMicros (moment % microsPerDay).toNat none).toOption

def slot (day period start finish : Int) (isBreak : Bool) : Sampling Source SlotEntry :=
  accepted (SlotEntry.read
    (SlotEntry.named none day period (timeOfDay start) (timeOfDay finish) isBreak).write)

/-- The rest of a day, given the count of periods to come, that of those before, the number of the
next slot, and its start. -/
def daySlots (settings : Settings) (day : Int) : Nat → Int → Int → Int → Sampling Source (List SlotEntry)
  | 0, _, _, _ => return []
  | count + 1, taught, period, moment => do
      let finish ← later moment (← span settings.periodMinutes)
      let lesson ← slot day period moment finish false
      if settings.breakAfter = some (taught + 1) then
        let resumed ← later finish (← span settings.breakMinutes)
        let pause ← slot day (period + 1) finish resumed true
        let rest ← daySlots settings day count (taught + 1) (period + 2) resumed
        return lesson :: pause :: rest
      else
        let rest ← daySlots settings day count (taught + 1) (period + 1) finish
        return lesson :: rest

def weekSlots (settings : Settings) : Nat → Int → Sampling Source (List SlotEntry)
  | 0, _ => return []
  | count + 1, day => do
      let today ← daySlots settings day settings.periods.toNat 0 1 settings.dayStart.micros
      let rest ← weekSlots settings count (day + 1)
      return today ++ rest

def slots (settings : Settings) : Sampling Source (List SlotEntry) := do
  discard <| span settings.periodMinutes
  weekSlots settings settings.days.toNat 0

/-- The number in the grid of a teaching period of a day; behind the break it is one more. -/
def gridPeriod (settings : Settings) (period : Int) : Int :=
  if settings.breakAfter.any fun last => last < period then period + 1 else period

/-! Teachers -/

/-- How often a name is drawn again at most before names count as used up. -/
def nameTrials : Nat := 100000

def drawName (used : List String) : Nat → Sampling Source (String × String)
  | 0 => throw .namesUsedUp
  | trials + 1 => do
      let first ← drawFrom firstNames
      let last ← drawFrom lastNames
      if used.contains s!"{first} {last}" then drawName used trials else return (first, last)

def leading (count : Nat) (text : String) : String := String.ofList (text.toList.take count)

/-- The code of a teacher: initials, with a number in place of their end where they are taken. -/
def codeOf (used : List String) (index : Nat) (first last : String) : String :=
  let initials := leading 1 first ++ (leading 2 last).toUpper
  if used.contains initials then leading 5 (leading 3 initials ++ toString index) else initials

def moreTeachers (trials : Nat) (made : List TeacherEntry) : Nat → Sampling Source (List TeacherEntry)
  | 0 => return made
  | count + 1 => do
      let (first, last) ← drawName (made.map (·.name)) trials
      let code := codeOf (made.filterMap (·.abbreviation)) made.length first last
      let hours ← drawFrom teacherHours
      let number := made.length + 1
      moreTeachers trials (made ++ [⟨s!"t{number}", s!"{first} {last}", some code, hours, true⟩]) count

def teachersWithin (trials : Nat) (settings : Settings) : Sampling Source (List TeacherEntry) :=
  moreTeachers trials [] settings.teachers.toNat

def teachers (settings : Settings) : Sampling Source (List TeacherEntry) :=
  teachersWithin nameTrials settings

/-! Classes and their hours -/

def gradeClasses (settings : Settings) (grade : Int) : Nat → Nat → Sampling Source (List ClassEntry)
  | 0, _ => return []
  | count + 1, index => do
      let letter := Char.ofNat ('a'.toNat + index)
      let id := s!"{grade}{letter}"
      let students ← drawBetween settings.leastStudents settings.greatestStudents
      let entry ← accepted (ClassEntry.read (ClassEntry.mk id id grade (some students) none true).write)
      let rest ← gradeClasses settings grade count (index + 1)
      return entry :: rest

/-- The classes of some grades, each with its share and the first ones with one more. -/
def classesOf (settings : Settings) (share : Int) : Int → List Int → Sampling Source (List ClassEntry)
  | _, [] => return []
  | extra, grade :: rest => do
      let count := share + if 0 < extra then 1 else 0
      let first ← gradeClasses settings grade count.toNat 0
      let others ← classesOf settings share (extra - 1) rest
      return first ++ others

def classes (settings : Settings) : Sampling Source (List ClassEntry) := do
  let count : Int := settings.grades.length
  if count = 0 then throw .noGrades
  classesOf settings (settings.classes.fdiv count) (settings.classes.fmod count) settings.grades

/-- The hours of a class in some subjects, each as long as all of them keep within the limit. An
A and a B subject share a slot, so the B subject counts for nothing behind one of the A weeks. -/
def classHours (settings : Settings) (schoolClass : ClassEntry) :
    Int → Bool → List StockSubject → List Requirement
  | _, _, [] => []
  | total, hasA, subject :: rest =>
      let counted := if subject.pattern = .b ∧ hasA then 0 else subject.weeklyHours
      if settings.classHours < total + counted then classHours settings schoolClass total hasA rest
      else
        ⟨some s!"{schoolClass.id}-{subject.id}", schoolClass.id, subject.id, subject.weeklyHours,
            subject.pattern, []⟩ ::
          classHours settings schoolClass (total + counted) (hasA || subject.pattern = .a) rest

/-- The hours of all classes. Subjects of B weeks come last, behind their partners of A weeks. -/
def requirements (settings : Settings) (classes : List ClassEntry) (subjects : List StockSubject) :
    List Requirement :=
  let (late, early) := subjects.partition (·.pattern = .b)
  classes.flatMap fun schoolClass => classHours settings schoolClass 0 false (early ++ late)

/-! Qualifications -/

abbrev Assignment := List (String × List String)

def drawSubjects (settings : Settings) (subjects : List String) :
    List TeacherEntry → Sampling Source Assignment
  | [] => return []
  | teacher :: rest => do
      let count ← drawBetween settings.leastSubjects settings.greatestSubjects
      let drawn ← drawSome (min count subjects.length) subjects
      let others ← drawSubjects settings subjects rest
      return (teacher.id, drawn) :: others

def hoursPerTeacher (settings : Settings) : Sampling Source Int :=
  match Number.ofInt? (settings.days * settings.periods) with
  | none => throw .endlessShare
  | some week =>
      let share := week * settings.utilization
      if share.isNaN then throw .badShare
      else if share.isInf then throw .endlessShare
      else return max 1 ((Number.wholePart? share).getD 0)

def demandFor (requirements : List Requirement) (subject : String) : Int :=
  Requirement.totalHours (requirements.filter (·.subject = subject))

def ceilQuotient (amount divisor : Int) : Int := -((-amount).fdiv divisor)

/-- Adds teachers to a subject until it has as many as its demand needs, those with the fewest
subjects first. -/
def cover (needed : Int) (subject : String) (assignment : Assignment) : Assignment :=
  let (qualified, spare) := assignment.partition fun entry => entry.2.contains subject
  let added := ((spare.mergeSort fun first second => first.2.length ≤ second.2.length).take
    (needed - qualified.length).toNat).map (·.1)
  assignment.map fun (teacher, subjects) =>
    if added.contains teacher then (teacher, subjects ++ [subject]) else (teacher, subjects)

/-- The records of an assignment. The first subject of a teacher is the main one. -/
def qualificationsOf (grades : List Int) (assignment : Assignment) : List Qualification :=
  assignment.flatMap fun (teacher, subjects) =>
    subjects.zipIdx.map fun (subject, index) =>
      ⟨teacher, subject, if index = 0 then .primary else .secondary, some grades, none⟩

def qualifications (settings : Settings) (teachers : List TeacherEntry) (subjects : List StockSubject)
    (requirements : List Requirement) : Sampling Source (List Qualification) := do
  let ids := subjects.map (·.id)
  let drawn ← drawSubjects settings ids teachers
  let share ← hoursPerTeacher settings
  let covered := ids.foldl (fun assignment subject =>
    cover (ceilQuotient (demandFor requirements subject) share) subject assignment) drawn
  return qualificationsOf settings.grades covered

/-! Rooms -/

def room (id name : String) (least greatest : Int) (suitable : List String) :
    Sampling Source RoomEntry := do
  let capacity ← drawBetween least greatest
  accepted (RoomEntry.read (RoomEntry.mk id (some name) (some capacity) suitable true).write)

def classrooms (settings : Settings) : Nat → Nat → Sampling Source (List RoomEntry)
  | 0, _ => return []
  | count + 1, index => do
      let number := (index / 4 + 1) * 100 + index % 4 + 1
      let first ← room s!"r{number}" s!"Room {number}" settings.leastClassroom
        settings.greatestClassroom []
      let rest ← classrooms settings count (index + 1)
      return first :: rest

def specialRooms (settings : Settings) : List StockSubject → Sampling Source (List RoomEntry)
  | [] => return []
  | subject :: rest => do
      match subject.room with
      | none => specialRooms settings rest
      | some name => do
          let first ← room s!"{subject.id}1" name settings.leastSpecialRoom
            settings.greatestSpecialRoom [subject.id]
          let others ← specialRooms settings rest
          return first :: others

def rooms (settings : Settings) (subjects : List StockSubject) : Sampling Source (List RoomEntry) := do
  let general ← classrooms settings settings.classrooms.toNat 0
  let special ← specialRooms settings subjects
  return general ++ special

/-! Availability -/

def drawPlaces (settings : Settings) : Nat → Sampling Source (List (Int × Int))
  | 0 => return []
  | count + 1 => do
      let day ← drawBelow settings.days.toNat
      let period ← drawBetween 1 settings.periods
      let rest ← drawPlaces settings count
      return ((day : Int), period) :: rest

def placesInOrder (places : List (Int × Int)) : List (Int × Int) :=
  Entries.ascending (fun first second =>
    first.1 < second.1 || first.1 == second.1 && first.2 ≤ second.2) places

def recordsAt (settings : Settings) (teacher : String) (kind : AvailabilityKind) :
    List (Int × Int) → Sampling Source (List Availability)
  | [] => return []
  | (day, period) :: rest => do
      let first ← accepted (Availability.read
        (Availability.mk teacher none day (gridPeriod settings period) kind).write)
      let others ← recordsAt settings teacher kind rest
      return first :: others

/-- Blocked and preferred slots of every teacher. A slot that is blocked is not preferred. -/
def availabilities (settings : Settings) : List TeacherEntry → Sampling Source (List Availability)
  | [] => return []
  | teacher :: rest => do
      let blockedCount ← drawBetween 0 settings.greatestBlocked
      let blocked ← drawPlaces settings blockedCount.toNat
      let preferredCount ← drawBetween 0 settings.greatestPreferred
      let preferred ← drawPlaces settings preferredCount.toNat
      let against ← recordsAt settings teacher.id .blocked (placesInOrder blocked)
      let wishes ← recordsAt settings teacher.id .preferred
        (placesInOrder (preferred.filter fun place => !blocked.contains place))
      let others ← availabilities settings rest
      return against ++ wishes ++ others

/-! The school -/

def withClassTeachers (teachers : List TeacherEntry) (qualifications : List Qualification)
    (classes : List ClassEntry) : List ClassEntry :=
  let core := coreSubjects.map (·.id)
  let candidates := (teachers.map (·.id)).filter fun id =>
    qualifications.any fun record => record.teacher == id && core.contains record.subject
  if candidates.isEmpty then classes
  else classes.mapIdx fun index entry =>
    { entry with classTeacher := candidates[index % candidates.length]? }

def problemWithin (trials : Nat) (settings : Settings) : Sampling Source Problem := do
  let taught ← subjects settings
  let grid ← slots settings
  let staff ← teachersWithin trials settings
  let groups ← classes settings
  let hours := requirements settings groups taught
  let skills ← qualifications settings staff taught hours
  let places ← rooms settings taught
  let times ← availabilities settings staff
  let named := if settings.assignsClassTeachers then withClassTeachers staff skills groups else groups
  let school : Problem :=
    { term := settings.term
      slots := grid
      rooms := places
      subjects := taught.map (·.entry)
      classes := named
      teachers := staff
      qualifications := skills
      availabilities := times
      requirements := hours }
  accepted (Problem.read school.write)

def problem (settings : Settings) : Sampling Source Problem := problemWithin nameTrials settings

end SchoolTimetable.Sample
