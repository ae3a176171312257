import SchoolTimetable.Calendar
import SchoolTimetable.Record.Form

/-!
Catalog entries of a term: slots, rooms, subjects, classes and teachers, and the records that relate
them. Each entry is read from a document by its form and written back with every field.
-/

namespace SchoolTimetable

open Record

/-- Whether a teacher can, would like to, or must not teach in a slot. -/
inductive AvailabilityKind where
  | available
  | preferred
  | blocked
deriving DecidableEq, Repr

def AvailabilityKind.text : AvailabilityKind → String
  | .available => "AVAILABLE"
  | .preferred => "PREFERRED"
  | .blocked => "BLOCKED"

inductive QualificationLevel where
  | primary
  | secondary
  | substitute
deriving DecidableEq, Repr

def QualificationLevel.text : QualificationLevel → String
  | .primary => "PRIMARY"
  | .secondary => "SECONDARY"
  | .substitute => "SUBSTITUTE"

/-- Of several qualified teachers the one of lower rank is preferred. -/
def QualificationLevel.rank : QualificationLevel → Nat
  | .primary => 0
  | .secondary => 1
  | .substitute => 2

namespace Record

def textList : Reader (List String) := listOf text

def dayIndex : Reader Int := wholeBetween 0 4

def periodNumber : Reader Int := wholeBetween 1 16

def weekPattern : Reader WeekPattern := member (WeekPattern.all.map fun pattern => (pattern.text, pattern))

def availabilityKind : Reader AvailabilityKind :=
  member ([.available, .preferred, .blocked].map fun kind : AvailabilityKind => (kind.text, kind))

def qualificationLevel : Reader QualificationLevel :=
  member ([.primary, .secondary, .substitute].map fun level : QualificationLevel => (level.text, level))

end Record

structure SlotEntry where
  id : String
  day : Int
  period : Int
  start : Option ClockTime
  finish : Option ClockTime
  isBreak : Bool
deriving DecidableEq, Repr

namespace SlotEntry

def key (entry : SlotEntry) : String := slotKey entry.day entry.period

def named (id : Option String) (day period : Int) (start finish : Option ClockTime)
    (isBreak : Bool) : SlotEntry :=
  ⟨id.getD (slotKey day period), day, period, start, finish, isBreak⟩

def ordered (entry : SlotEntry) : Checked SlotEntry :=
  match entry.start, entry.finish with
  | some start, some finish =>
      match start.before? finish with
      | none => .incomparableTimes
      | some true => .ok entry
      | some false =>
          .flaw (.rule
            s!"start_time ({start.messageText}) must be before end_time ({finish.messageText})")
  | _, _ => .ok entry

def form : Form SlotEntry :=
  named <$> Form.optional "id" none (nullable text) <*> Form.required "day_of_week" dayIndex <*>
    Form.required "period" periodNumber <*> Form.optional "start_time" none (nullable clockTime) <*>
    Form.optional "end_time" none (nullable clockTime) <*> Form.optional "is_break" false truth

def read : Reader SlotEntry := fun document => (form.closed "TimeSlotRecord" document).andThen ordered

def write (entry : SlotEntry) : Json :=
  .obj [("id", .str entry.id), ("day_of_week", .int entry.day), ("period", .int entry.period),
    ("start_time", .ofOption (.str ·.documentText) entry.start),
    ("end_time", .ofOption (.str ·.documentText) entry.finish), ("is_break", .bool entry.isBreak)]

end SlotEntry

structure RoomEntry where
  id : String
  name : Option String
  capacity : Option Int
  suitableSubjects : List String
  active : Bool
deriving DecidableEq, Repr

namespace RoomEntry

def form : Form RoomEntry :=
  RoomEntry.mk <$> Form.required "id" nonemptyText <*> Form.optional "name" none (nullable text) <*>
    Form.optional "capacity" none (nullable (wholeFrom 1)) <*>
    Form.optional "suitable_subject_ids" [] textList <*> Form.optional "active" true truth

def read : Reader RoomEntry := form.closed "RoomRecord"

def write (entry : RoomEntry) : Json :=
  .obj [("id", .str entry.id), ("name", .ofOption .str entry.name),
    ("capacity", .ofOption .int entry.capacity),
    ("suitable_subject_ids", .list .str entry.suitableSubjects), ("active", .bool entry.active)]

end RoomEntry

structure SubjectEntry where
  id : String
  name : String
  abbreviation : Option String
deriving DecidableEq, Repr

namespace SubjectEntry

def form : Form SubjectEntry :=
  SubjectEntry.mk <$> Form.required "id" nonemptyText <*> Form.required "name" nonemptyText <*>
    Form.optional "abbreviation" none (nullable (shortText 10))

def read : Reader SubjectEntry := form.closed "SubjectRecord"

def write (entry : SubjectEntry) : Json :=
  .obj [("id", .str entry.id), ("name", .str entry.name),
    ("abbreviation", .ofOption .str entry.abbreviation)]

end SubjectEntry

structure ClassEntry where
  id : String
  name : String
  grade : Int
  studentCount : Option Int
  classTeacher : Option String
  active : Bool
deriving DecidableEq, Repr

namespace ClassEntry

def form : Form ClassEntry :=
  ClassEntry.mk <$> Form.required "id" nonemptyText <*> Form.required "name" nonemptyText <*>
    Form.required "grade_level" (wholeBetween 1 13) <*>
    Form.optional "student_count" none (nullable (wholeFrom 1)) <*>
    Form.optional "class_teacher_id" none (nullable text) <*> Form.optional "active" true truth

def read : Reader ClassEntry := form.closed "SchoolClassRecord"

def write (entry : ClassEntry) : Json :=
  .obj [("id", .str entry.id), ("name", .str entry.name), ("grade_level", .int entry.grade),
    ("student_count", .ofOption .int entry.studentCount),
    ("class_teacher_id", .ofOption .str entry.classTeacher), ("active", .bool entry.active)]

end ClassEntry

structure TeacherEntry where
  id : String
  name : String
  abbreviation : Option String
  maxHours : Int
  active : Bool
deriving DecidableEq, Repr

namespace TeacherEntry

def form : Form TeacherEntry :=
  TeacherEntry.mk <$> Form.required "id" nonemptyText <*> Form.required "name" nonemptyText <*>
    Form.optional "abbreviation" none (nullable (shortText 5)) <*>
    Form.optional "max_hours_per_week" 28 (wholeBetween 1 60) <*> Form.optional "active" true truth

def read : Reader TeacherEntry := form.closed "TeacherRecord"

def write (entry : TeacherEntry) : Json :=
  .obj [("id", .str entry.id), ("name", .str entry.name),
    ("abbreviation", .ofOption .str entry.abbreviation), ("max_hours_per_week", .int entry.maxHours),
    ("active", .bool entry.active)]

end TeacherEntry

/-- That a teacher may teach a subject at some grades; no grades are given as none at all. -/
structure Qualification where
  teacher : String
  subject : String
  level : QualificationLevel
  grades : Option (List Int)
  maxHours : Option Int
deriving DecidableEq, Repr

namespace Qualification

def form : Form Qualification :=
  Qualification.mk <$> Form.required "teacher_id" text <*> Form.required "subject_id" text <*>
    Form.optional "qualification_level" .primary qualificationLevel <*>
    Form.optional "can_teach_grades" none (nullable (listOf whole)) <*>
    Form.optional "max_hours_per_week" none (nullable (wholeFrom 1))

def read : Reader Qualification := form.closed "TeacherQualification"

def write (record : Qualification) : Json :=
  .obj [("teacher_id", .str record.teacher), ("subject_id", .str record.subject),
    ("qualification_level", .str record.level.text),
    ("can_teach_grades", .ofOption (.list .int) record.grades),
    ("max_hours_per_week", .ofOption .int record.maxHours)]

end Qualification

structure Availability where
  teacher : String
  term : Option String
  day : Int
  period : Int
  kind : AvailabilityKind
deriving DecidableEq, Repr

namespace Availability

def key (record : Availability) : String := slotKey record.day record.period

def form : Form Availability :=
  Availability.mk <$> Form.required "teacher_id" text <*> Form.optional "term_id" none (nullable text) <*>
    Form.required "day_of_week" dayIndex <*> Form.required "period" periodNumber <*>
    Form.required "availability_type" availabilityKind

def read : Reader Availability := form.closed "TeacherAvailability"

def write (record : Availability) : Json :=
  .obj [("teacher_id", .str record.teacher), ("term_id", .ofOption .str record.term),
    ("day_of_week", .int record.day), ("period", .int record.period),
    ("availability_type", .str record.kind.text)]

end Availability

/-- The weekly hours of a subject that a class must receive. Without candidates every qualified
teacher may give them. -/
structure Requirement where
  id : Option String
  schoolClass : String
  subject : String
  weeklyHours : Int
  pattern : WeekPattern
  candidates : List String
deriving DecidableEq, Repr

namespace Requirement

/-- The id of a requirement, or class, subject and pattern where it has none. -/
def key (record : Requirement) : String :=
  match record.id with
  | some id => if id.isEmpty then ofParts record else id
  | none => ofParts record
where
  ofParts (record : Requirement) : String :=
    s!"{record.schoolClass}-{record.subject}-{record.pattern.text}"

def form : Form Requirement :=
  Requirement.mk <$> Form.optional "id" none (nullable text) <*>
    Form.required "school_class_id" text <*> Form.required "subject_id" text <*>
    Form.required "weekly_hours" (wholeBetween 1 20) <*>
    Form.optional "week_pattern" .every weekPattern <*>
    Form.optional "candidate_teacher_ids" [] textList

def read : Reader Requirement := form.closed "CurriculumRequirement"

def write (record : Requirement) : Json :=
  .obj [("id", .ofOption .str record.id), ("school_class_id", .str record.schoolClass),
    ("subject_id", .str record.subject), ("weekly_hours", .int record.weeklyHours),
    ("week_pattern", .str record.pattern.text),
    ("candidate_teacher_ids", .list .str record.candidates)]

def totalHours (requirements : List Requirement) : Int :=
  requirements.foldr (fun requirement hours => requirement.weeklyHours + hours) 0

end Requirement

end SchoolTimetable
