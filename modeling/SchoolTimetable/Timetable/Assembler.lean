import SchoolTimetable.Timetable.Assembly

/-!
An assembler can be asked for the timetable of its snapshot any number of times. Between two passes it keeps the
warnings of the last one and the caps that it has noted.
-/

namespace SchoolTimetable

/-- The half hours that are fixed so far, for each teacher and for each teacher in a subject, with the
teachers under their ids. -/
structure Workload where
  weekly : List (String × Int)
  perSubject : List ((String × String) × Int)
  teachers : List (String × Teacher)

namespace Workload

def count (workload : Workload) (lesson : Lesson) : Workload :=
  match lesson.candidateTeachers with
  | [teacher] =>
      let more := fun hours : Option Int => hours.getD 0 + Problem.halfHours lesson
      { weekly := Entries.adjust teacher.id more workload.weekly
        perSubject := Entries.adjust (teacher.id, lesson.subject.id) more workload.perSubject
        teachers := Entries.put teacher.id teacher workload.teachers }
  | _ => workload

def ofLessons (lessons : List Lesson) : Workload := lessons.foldl count ⟨[], [], []⟩

end Workload

/-- An assembler between two passes. The levels of qualifications, which it keeps as well, are written for every
record in each pass: candidates are ranked by the snapshot alone. -/
structure Assembler where
  problem : Problem
  config : Config
  warnings : List WorkloadWarning
  /-- The cap on a teacher's hours in a subject, under both ids. -/
  caps : List ((String × String) × Int)

namespace Assembler

def ofProblem (problem : Problem) (config : Config) : Assembler := ⟨problem, config, [], []⟩

/-- Notes the cap of a record that states one, over what was noted for its teacher and subject. -/
def noteCap (caps : List ((String × String) × Int)) (record : Qualification) :
    List ((String × String) × Int) :=
  match record.maxHours with
  | some cap => Entries.put (record.teacher, record.subject) cap caps
  | none => caps

def noteCaps (assembler : Assembler) : Assembler :=
  { assembler with caps := assembler.problem.qualifications.foldl noteCap assembler.caps }

def warn (assembler : Assembler) (warning : WorkloadWarning) : Assembler :=
  { assembler with warnings := assembler.warnings ++ [warning] }

def checkWeek (workload : Workload) (assembler : Assembler) (counted : String × Int) : Assembler :=
  match Entries.get? counted.1 workload.teachers with
  | some teacher =>
      if 2 * teacher.maxHours < counted.2 then
        assembler.warn (.weekly teacher.name counted.2 teacher.maxHours)
      else assembler
  | none => assembler

/-- Warns of a teacher with more fixed hours in a subject than the cap, if one was noted. -/
def checkSubject (workload : Workload) (assembler : Assembler) (counted : (String × String) × Int) :
    Assembler :=
  match Entries.get? counted.1.1 workload.teachers, Entries.get? counted.1 assembler.caps with
  | some teacher, some cap =>
      if 2 * cap < counted.2 then
        assembler.warn (.ofSubject teacher.name counted.2 counted.1.2 cap)
      else assembler
  | _, _ => assembler

def checkWorkload (assembler : Assembler) (lessons : List Lesson) : Assembler :=
  let workload := Workload.ofLessons lessons
  workload.perSubject.foldl (checkSubject workload) (workload.weekly.foldl (checkWeek workload) assembler)

/-- One pass. The warnings of the pass before are dropped first; a term that is refused has none. -/
def assemble : EStateM (List AssemblyFault) Assembler Timetable := do
  modify fun assembler => { assembler with warnings := [] }
  modify noteCaps
  let assembler ← get
  let outcomes := assembler.problem.lessonOutcomes assembler.config.allowUnresourced
  match assembler.problem.assemblyFaults outcomes with
  | [] =>
      let lessons := Problem.assembledLessons outcomes
      set (assembler.checkWorkload lessons)
      return assembler.problem.timetableOf lessons
  | faults => throw faults

/-- The assembler after a pass, whether or not the term was refused. -/
def afterPass (assembler : Assembler) : Assembler :=
  match assemble.run assembler with
  | .ok _ after => after
  | .error _ after => after

end Assembler

end SchoolTimetable
