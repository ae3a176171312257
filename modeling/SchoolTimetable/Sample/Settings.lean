import SchoolTimetable.Record.Form

/-!
Settings of a sample school. Three sizes are ready made.
-/

namespace SchoolTimetable.Sample

open Record

structure Settings where
  term : String
  teachers : Int
  classes : Int
  classrooms : Int
  /-- No class is given more hours than this. -/
  classHours : Int
  leastSubjects : Int
  greatestSubjects : Int
  greatestBlocked : Int
  greatestPreferred : Int
  /-- The share of the week that the hours of a subject are planned against for one teacher. -/
  utilization : Float
  leastStudents : Int
  greatestStudents : Int
  grades : List Int
  assignsClassTeachers : Bool
  leastClassroom : Int
  greatestClassroom : Int
  leastSpecialRoom : Int
  greatestSpecialRoom : Int
  days : Int
  periods : Int
  dayStart : ClockTime
  periodMinutes : Int
  /-- A break follows this period of every day. -/
  breakAfter : Option Int
  breakMinutes : Int
  hasSpecialSubjects : Bool
  specialSubjects : Int
  seed : Option Int
deriving Repr

namespace Settings

def eightOClock : ClockTime := ⟨8 * 3600 * microsPerSecond, none, by decide⟩

def medium : Settings :=
  { term := "term-1"
    teachers := 20
    classes := 12
    classrooms := 12
    classHours := 20
    leastSubjects := 2
    greatestSubjects := 3
    greatestBlocked := 3
    greatestPreferred := 3
    utilization := 0.6
    leastStudents := 18
    greatestStudents := 28
    grades := [5, 6, 7, 8, 9, 10]
    assignsClassTeachers := true
    leastClassroom := 28
    greatestClassroom := 34
    leastSpecialRoom := 28
    greatestSpecialRoom := 32
    days := 5
    periods := 6
    dayStart := eightOClock
    periodMinutes := 45
    breakAfter := some 2
    breakMinutes := 20
    hasSpecialSubjects := true
    specialSubjects := 4
    seed := none }

def small : Settings :=
  { medium with
    teachers := 8
    classes := 4
    classrooms := 4
    classHours := 18
    grades := [5, 6]
    specialSubjects := 3 }

def large : Settings :=
  { medium with
    teachers := 60
    classes := 36
    classrooms := 36
    classHours := 25
    periods := 7
    greatestBlocked := 2
    specialSubjects := 6 }

/-- A whole number. Settings are read strictly: of other values only a truth value may stand for it. -/
def count : Reader Int
  | .int value => .ok value
  | .bool value => .ok (if value then 1 else 0)
  | _ => .flaw .notWhole

def share : Reader Float
  | .str _ => .flaw .notNumber
  | value => number value

/-- Whether something is wanted: what is null, zero or empty is not. -/
def wish : Reader Bool
  | .null | .bool false | .int 0 | .str "" | .arr [] | .obj [] => .ok false
  | .float value => .ok (value != 0)
  | _ => .ok true

/-- A time of day as the list of its hour, minute, second and microsecond; those at the end that are
not written are zero. -/
def startTime : Reader ClockTime := fun document =>
  (listOf count document).andThen fun parts =>
    let part := fun index : Nat => parts.getD index 0
    if 4 < parts.length then .flaw .notTime
    else foundTime (ClockTime.ofParts (part 0) (part 1) (part 2) (part 3))

def form : Form Settings :=
  Settings.mk <$> Form.optional "term_id" medium.term text <*>
    Form.optional "num_teachers" medium.teachers count <*>
    Form.optional "num_classes" medium.classes count <*>
    Form.optional "num_classrooms" medium.classrooms count <*>
    Form.optional "lessons_per_class_per_week" medium.classHours count <*>
    Form.optional "teacher_min_subjects" medium.leastSubjects count <*>
    Form.optional "teacher_max_subjects" medium.greatestSubjects count <*>
    Form.optional "teacher_max_blocked_slots" medium.greatestBlocked count <*>
    Form.optional "teacher_max_preferred_slots" medium.greatestPreferred count <*>
    Form.optional "teacher_utilization" medium.utilization share <*>
    Form.optional "min_students" medium.leastStudents count <*>
    Form.optional "max_students" medium.greatestStudents count <*>
    Form.optional "grade_levels" medium.grades (listOf count) <*>
    Form.optional "assign_class_teachers" medium.assignsClassTeachers wish <*>
    Form.optional "classroom_capacity_min" medium.leastClassroom count <*>
    Form.optional "classroom_capacity_max" medium.greatestClassroom count <*>
    Form.optional "specialist_capacity_min" medium.leastSpecialRoom count <*>
    Form.optional "specialist_capacity_max" medium.greatestSpecialRoom count <*>
    Form.optional "num_days" medium.days count <*>
    Form.optional "periods_per_day" medium.periods count <*>
    Form.optional "day_start" medium.dayStart startTime <*>
    Form.optional "period_minutes" medium.periodMinutes count <*>
    Form.optional "break_after_period" medium.breakAfter (nullable count) <*>
    Form.optional "break_minutes" medium.breakMinutes count <*>
    Form.optional "include_specialist_subjects" medium.hasSpecialSubjects wish <*>
    Form.optional "num_specialist_subjects" medium.specialSubjects count <*>
    Form.optional "seed" medium.seed (nullable count)

def read : Reader Settings := form.closed "GeneratorConfig"

end Settings

inductive Size where
  | small
  | medium
  | large
deriving DecidableEq, Repr

namespace Size

def all : List Size := [.small, .medium, .large]

def text : Size → String
  | .small => "small"
  | .medium => "medium"
  | .large => "large"

def ofText? (text : String) : Option Size := all.find? (·.text == text)

def settings : Size → Settings
  | .small => .small
  | .medium => .medium
  | .large => .large

end Size

end SchoolTimetable.Sample
