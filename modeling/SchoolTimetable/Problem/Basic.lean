import SchoolTimetable.Problem.Catalog
import SchoolTimetable.Text.Itemized

/-!
The snapshot of everything needed to plan one term. A snapshot is accepted only if no id and no slot
position occurs twice and every reference names an entry of its catalog.
-/

namespace SchoolTimetable

open Record

structure Problem where
  term : String
  slots : List SlotEntry
  rooms : List RoomEntry
  subjects : List SubjectEntry
  classes : List ClassEntry
  teachers : List TeacherEntry
  qualifications : List Qualification
  availabilities : List Availability
  requirements : List Requirement
deriving DecidableEq, Repr

namespace Problem

/-- The values that occur in the list before them or among those seen already, once for every such
occurrence. -/
def repetitions (seen : List String) : List String → List String
  | [] => []
  | value :: rest =>
      if seen.contains value then value :: repetitions seen rest
      else repetitions (value :: seen) rest

def duplicateFaults (problem : Problem) : List String :=
  let inCatalog := fun (noun : String) (ids : List String) =>
    (repetitions [] ids).map fun id => s!"Duplicate {noun} ID: '{id}'"
  inCatalog "time slot" (problem.slots.map (·.id)) ++
    inCatalog "room" (problem.rooms.map (·.id)) ++
    inCatalog "subject" (problem.subjects.map (·.id)) ++
    inCatalog "class" (problem.classes.map (·.id)) ++
    inCatalog "teacher" (problem.teachers.map (·.id)) ++
    inCatalog "requirement" (problem.requirements.filterMap (·.id)) ++
    (repetitions [] (problem.slots.map (·.key))).map fun key => s!"Duplicate time slot position: '{key}'"

/-- One line for every reference that names no entry, record list by record list. -/
def referenceFaults (problem : Problem) : List String :=
  let teachers := problem.teachers.map (·.id)
  let classes := problem.classes.map (·.id)
  let subjects := problem.subjects.map (·.id)
  let missingFrom := fun (known : List String) (id line : String) => if known.contains id then [] else [line]
  (problem.requirements.flatMap fun record =>
    missingFrom classes record.schoolClass
        s!"Requirement {record.key}: unknown school_class_id '{record.schoolClass}'" ++
      missingFrom subjects record.subject
        s!"Requirement {record.key}: unknown subject_id '{record.subject}'" ++
      record.candidates.flatMap fun teacher =>
        missingFrom teachers teacher s!"Requirement {record.key}: unknown candidate teacher '{teacher}'") ++
  (problem.qualifications.flatMap fun record =>
    missingFrom teachers record.teacher s!"Qualification: unknown teacher_id '{record.teacher}'" ++
      missingFrom subjects record.subject s!"Qualification: unknown subject_id '{record.subject}'") ++
  (problem.availabilities.flatMap fun record =>
    missingFrom teachers record.teacher s!"Availability: unknown teacher_id '{record.teacher}'") ++
  (problem.rooms.flatMap fun room =>
    room.suitableSubjects.flatMap fun subject =>
      missingFrom subjects subject s!"Room {room.id}: unknown suitable subject '{subject}'") ++
  problem.classes.flatMap fun schoolClass =>
    match schoolClass.classTeacher with
    | none => []
    | some teacher =>
        if teacher.isEmpty then []
        else missingFrom teachers teacher s!"Class {schoolClass.id}: unknown class_teacher_id '{teacher}'"

def faultless (heading : String) (faults : Problem → List String) (problem : Problem) :
    Checked Problem :=
  match faults problem with
  | [] => .ok problem
  | found => .flaw (.rule (itemized heading found))

def form : Form Problem :=
  Problem.mk <$> Form.required "term_id" nonemptyText <*>
    Form.required "time_slots" (nonemptyListOf SlotEntry.read) <*>
    Form.optional "rooms" [] (listOf RoomEntry.read) <*>
    Form.required "subjects" (nonemptyListOf SubjectEntry.read) <*>
    Form.required "school_classes" (nonemptyListOf ClassEntry.read) <*>
    Form.required "teachers" (nonemptyListOf TeacherEntry.read) <*>
    Form.optional "qualifications" [] (listOf Qualification.read) <*>
    Form.optional "availabilities" [] (listOf Availability.read) <*>
    Form.optional "requirements" [] (listOf Requirement.read)

def checked (problem : Problem) : Checked Problem :=
  (faultless "Duplicate ID validation failed" duplicateFaults problem).andThen
    (faultless "Reference validation failed" referenceFaults)

def title : String := "ProblemInput"

def read : Reader Problem := fun document => (form.closed title document).andThen checked

def load : Reader Problem := fun document => read document.underscoreKeys

def write (problem : Problem) : Json :=
  .obj [("term_id", .str problem.term), ("time_slots", .list SlotEntry.write problem.slots),
    ("rooms", .list RoomEntry.write problem.rooms),
    ("subjects", .list SubjectEntry.write problem.subjects),
    ("school_classes", .list ClassEntry.write problem.classes),
    ("teachers", .list TeacherEntry.write problem.teachers),
    ("qualifications", .list Qualification.write problem.qualifications),
    ("availabilities", .list Availability.write problem.availabilities),
    ("requirements", .list Requirement.write problem.requirements)]

def assignableSlots (problem : Problem) : List SlotEntry :=
  (problem.slots.filter (!·.isBreak)).mergeSort fun first second =>
    first.day < second.day || first.day == second.day && first.period ≤ second.period

def totalHours (problem : Problem) : Int := Requirement.totalHours problem.requirements

def summary (problem : Problem) : Json :=
  .obj [("term_id", .str problem.term), ("teachers", .ofNat problem.teachers.length),
    ("classes", .ofNat problem.classes.length), ("subjects", .ofNat problem.subjects.length),
    ("rooms", .ofNat problem.rooms.length), ("time_slots", .ofNat problem.slots.length),
    ("assignable_slots", .ofNat problem.assignableSlots.length),
    ("requirements", .ofNat problem.requirements.length),
    ("total_required_hours", .int problem.totalHours)]

end Problem

end SchoolTimetable
