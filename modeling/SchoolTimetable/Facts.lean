import SchoolTimetable.Calendar
import SchoolTimetable.ClockTime

/-!
Problem facts: slots, rooms, subjects, classes and teachers as the search sees them. Facts never
change during a solve.
-/

namespace SchoolTimetable

def preferText (first : Option String) (second : String) : String :=
  match first with
  | some text => if text.isEmpty then second else text
  | none => second

structure TimeSlot where
  id : String
  day : Int
  period : Int
  start : Option ClockTime
  finish : Option ClockTime
deriving DecidableEq, Repr

namespace TimeSlot

def key (slot : TimeSlot) : String := slotKey slot.day slot.period

def text (slot : TimeSlot) : String :=
  let day := dayName slot.day
  s!"{day} P{slot.period}"

end TimeSlot

structure Room where
  id : String
  name : String
  capacity : Option Int
  suitableSubjects : List String
deriving DecidableEq, Repr

namespace Room

/-- A room without a list of subjects suits every subject. -/
def suits (room : Room) (subject : String) : Bool :=
  room.suitableSubjects.isEmpty || room.suitableSubjects.contains subject

end Room

structure Subject where
  id : String
  name : String
  abbreviation : Option String
deriving DecidableEq, Repr

def Subject.text (subject : Subject) : String := preferText subject.abbreviation subject.name

structure SchoolClass where
  id : String
  name : String
  grade : Int
  studentCount : Option Int
  classTeacher : Option String
deriving DecidableEq, Repr

/-- A teacher with the keys of blocked and preferred slots, and for each subject the grades at which
the teacher may teach it. -/
structure Teacher where
  id : String
  name : String
  abbreviation : Option String
  maxHours : Int
  blocked : List String
  preferred : List String
  qualifications : List (String × List Int)
deriving DecidableEq, Repr

namespace Teacher

def isBlockedAt (teacher : Teacher) (slot : TimeSlot) : Bool := teacher.blocked.contains slot.key

def prefers (teacher : Teacher) (slot : TimeSlot) : Bool := teacher.preferred.contains slot.key

def isQualifiedFor (teacher : Teacher) (subject : String) (grade : Int) : Bool :=
  match teacher.qualifications.lookup subject with
  | some grades => grades.contains grade
  | none => false

def text (teacher : Teacher) : String := preferText teacher.abbreviation teacher.name

end Teacher

end SchoolTimetable
