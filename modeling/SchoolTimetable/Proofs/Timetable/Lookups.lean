import SchoolTimetable.Proofs.Entries.Totals
import SchoolTimetable.Proofs.Timetable.Assembling

/-!
Assembly in one pass, with look-ups that end it if there is nothing under a key. Of an accepted snapshot they
find everything: the subjects of requirements are in their catalog, and teachers are counted only for lessons that
they give. So the pass always comes to its end, with what assembly gives.
-/

namespace SchoolTimetable

namespace Problem

variable {problem : Problem} {config : Config}

def fixedLessons (lessons : List Lesson) : List (Teacher × Lesson) :=
  lessons.filterMap fun lesson =>
    match lesson.candidateTeachers with
    | [teacher] => some (teacher, lesson)
    | _ => none

def weeklyHours (lessons : List Lesson) : List (String × Int) :=
  Entries.totals (·.1.id) (halfHours ·.2) (fixedLessons lessons)

def subjectHours (lessons : List Lesson) : List ((String × String) × Int) :=
  Entries.totals (fun pair => (pair.1.id, pair.2.subject.id)) (halfHours ·.2) (fixedLessons lessons)

def weeklyWarning (teacher : Teacher) (hours : Int) : Option WorkloadWarning :=
  if 2 * teacher.maxHours < hours then some (.weekly teacher.name hours teacher.maxHours) else none

def subjectWarning (problem : Problem) (teacher : Teacher) (id subject : String) (hours : Int) :
    Option WorkloadWarning := do
  let cap ← problem.subjectCap? id subject
  if 2 * cap < hours then some (.ofSubject teacher.name hours subject cap) else none

/-- The teacher who gives a fixed lesson, or the id under which there is none. -/
def fixedTeacher (lessons : List Lesson) (id : String) : Except String Teacher :=
  match (fixedLessons lessons).find? (·.1.id == id) with
  | some pair => .ok pair.1
  | none => .error id

def warn (problem : Problem) (lessons : List Lesson) : Except String (List WorkloadWarning) := do
  let weekly ← (weeklyHours lessons).mapM fun counted => do
    let teacher ← fixedTeacher lessons counted.1
    return weeklyWarning teacher counted.2
  let perSubject ← (subjectHours lessons).mapM fun counted => do
    let teacher ← fixedTeacher lessons counted.1.1
    return problem.subjectWarning teacher counted.1.1 counted.1.2 counted.2
  return weekly.filterMap id ++ perSubject.filterMap id

structure Gathered where
  faults : List AssemblyFault
  lessons : List Lesson

def gather (problem : Problem) (allowUnresourced : Bool) (gathered : Gathered)
    (entry : Requirement × String) : Except String Gathered :=
  match problem.buildClasses.find? (·.id == entry.1.schoolClass),
      problem.buildSubjects.find? (·.id == entry.1.subject) with
  | none, _ => .ok gathered
  | some _, none => .error entry.1.subject
  | some _, some _ =>
      match problem.requirementLessons allowUnresourced problem.facts entry.1 entry.2 with
      | .error fault => .ok { gathered with faults := gathered.faults ++ [fault] }
      | .ok lessons => .ok { gathered with lessons := gathered.lessons ++ lessons }

/-- The end of a pass: all faults, or the timetable once the fixed hours are checked. -/
def conclude (problem : Problem) (gathered : Gathered) :
    Except String (Except (List AssemblyFault) (Timetable × List WorkloadWarning)) :=
  match gathered.faults with
  | [] => do
      let warnings ← problem.warn gathered.lessons
      return .ok (problem.timetableOf gathered.lessons, warnings)
  | faults => return .error faults

/-- Assembly in one pass, or the key that a look-up missed. -/
def attempt (problem : Problem) (config : Config) :
    Except String (Except (List AssemblyFault) (Timetable × List WorkloadWarning)) := do
  let opening := (if problem.requirements.isEmpty then [.nothingRequired problem.term] else []) ++
    problem.overfullClasses
  let gathered ← problem.prefixed.foldlM (problem.gather config.allowUnresourced) ⟨opening, []⟩
  problem.conclude gathered

/-- Where every look-up finds its part, parts that are kept are those of a look-up that may leave some out. -/
theorem kept_of_found {Member Found Part : Type} {lookUp : Member → Except String Found}
    {find? : Member → Option Found} (part : Member → Found → Option Part) (members : List Member)
    (found : ∀ member ∈ members, ∃ value, lookUp member = .ok value ∧ find? member = some value) :
    ∃ parts, (members.mapM fun member => do
        let value ← lookUp member
        return part member value) = .ok parts ∧
      parts.filterMap id = members.filterMap fun member => (find? member).bind (part member) := by
  induction members with
  | nil => exact ⟨[], rfl, rfl⟩
  | cons member rest ih =>
      obtain ⟨⟨value, here, there⟩, others⟩ := List.forall_mem_cons.1 found
      obtain ⟨parts, mapped, kept⟩ := ih others
      refine ⟨part member value :: parts, ?_, ?_⟩
      · rw [List.mapM_cons, here, mapped]
        rfl
      · rw [List.filterMap_cons, List.filterMap_cons, there, kept]
        rfl

theorem counted_fixed {Key : Type} [DecidableEq Key] {key : Teacher × Lesson → Key} {lessons : List Lesson}
    {counted : Key × Int}
    (listed : counted ∈ Entries.totals key (halfHours ·.2) (fixedLessons lessons)) :
    ∃ pair ∈ fixedLessons lessons, key pair = counted.1 := by
  rw [← Entries.mem_keys_group, ← Entries.keys_totals key (halfHours ·.2)]
  exact List.mem_map_of_mem listed

theorem fixed_teacher_found {lessons : List Lesson} {id : String}
    (counted : ∃ pair ∈ fixedLessons lessons, pair.1.id = id) :
    ∃ teacher, fixedTeacher lessons id = .ok teacher ∧
      ((fixedLessons lessons).find? (·.1.id == id)).map (·.1) = some teacher := by
  obtain ⟨pair, listed, own⟩ := counted
  unfold fixedTeacher
  cases found : (fixedLessons lessons).find? (·.1.id == id) with
  | none => exact absurd own (by simpa using List.find?_eq_none.1 found pair listed)
  | some first => exact ⟨first.1, rfl, rfl⟩

theorem warn_eq (problem : Problem) (lessons : List Lesson) :
    problem.warn lessons = .ok (problem.workloadWarnings lessons) := by
  obtain ⟨weekly, weeklyDone, weeklyKept⟩ := kept_of_found
    (fun counted : String × Int => (weeklyWarning · counted.2)) (weeklyHours lessons)
    fun _ listed => fixed_teacher_found (counted_fixed listed)
  obtain ⟨perSubject, subjectDone, subjectKept⟩ := kept_of_found
    (fun counted : (String × String) × Int =>
      (problem.subjectWarning · counted.1.1 counted.1.2 counted.2)) (subjectHours lessons)
    fun _ listed =>
      have ⟨pair, fixed, own⟩ := counted_fixed listed
      fixed_teacher_found ⟨pair, fixed, congrArg Prod.fst own⟩
  unfold warn
  rw [weeklyDone, subjectDone]
  change Except.ok (weekly.filterMap id ++ perSubject.filterMap id) = _
  rw [weeklyKept, subjectKept]
  rfl

theorem gather_eq (valid : problem.Valid) (allowUnresourced : Bool) {entry : Requirement × String}
    (listed : entry.1 ∈ problem.requirements) (gathered : Gathered) :
    problem.gather allowUnresourced gathered entry =
      match problem.requirementLessons allowUnresourced problem.facts entry.1 entry.2 with
      | .error fault => .ok { gathered with faults := gathered.faults ++ [fault] }
      | .ok lessons => .ok { gathered with lessons := gathered.lessons ++ lessons } := by
  obtain ⟨subject, subjectFound⟩ := Option.ne_none_iff_exists'.1 (find_subject_of_valid valid listed)
  unfold gather
  rw [subjectFound]
  cases classFound : problem.buildClasses.find? (·.id == entry.1.schoolClass) with
  | some schoolClass => rfl
  | none =>
      have idle : problem.requirementLessons allowUnresourced problem.facts entry.1 entry.2 = .ok [] := by
        unfold requirementLessons
        dsimp only [facts]
        rw [classFound]
      rw [idle]
      dsimp only
      rw [List.append_nil]

def faultOf : Except AssemblyFault (List Lesson) → Option AssemblyFault
  | .error fault => some fault
  | .ok _ => none

theorem gather_all (valid : problem.Valid) {entries : List (Requirement × String)}
    (listed : ∀ entry ∈ entries, entry.1 ∈ problem.requirements) (gathered : Gathered) :
    entries.foldlM (problem.gather config.allowUnresourced) gathered = .ok
      ⟨gathered.faults ++ (entries.map (problem.outcomeOf config)).filterMap faultOf,
        gathered.lessons ++ assembledLessons (entries.map (problem.outcomeOf config))⟩ := by
  induction entries generalizing gathered with
  | nil =>
      change Except.ok gathered = Except.ok (⟨gathered.faults ++ [], gathered.lessons ++ []⟩ : Gathered)
      rw [List.append_nil, List.append_nil]
  | cons entry rest ih =>
      obtain ⟨own, others⟩ := List.forall_mem_cons.1 listed
      rw [List.foldlM_cons, gather_eq valid config.allowUnresourced own, List.map_cons]
      change (match problem.outcomeOf config entry with
        | .error fault => Except.ok { gathered with faults := gathered.faults ++ [fault] }
        | .ok lessons => Except.ok { gathered with lessons := gathered.lessons ++ lessons }) >>= _ = _
      cases outcome : problem.outcomeOf config entry with
      | error fault =>
          change rest.foldlM _ (⟨gathered.faults ++ [fault], gathered.lessons⟩ : Gathered) = _
          rw [ih others, List.append_assoc]
          rfl
      | ok lessons =>
          change rest.foldlM _ (⟨gathered.faults, gathered.lessons ++ lessons⟩ : Gathered) = _
          rw [ih others, List.append_assoc]
          rfl

/-- Of an accepted snapshot no look-up misses its key: the pass ends, with what assembly gives. -/
theorem attempt_eq (valid : problem.Valid) (config : Config) :
    problem.attempt config = .ok (problem.assemble config) := by
  have listed : ∀ entry ∈ problem.prefixed, entry.1 ∈ problem.requirements :=
    fun entry kept => (List.of_mem_zip kept).1
  unfold attempt
  dsimp only
  rw [gather_all valid listed]
  change problem.conclude ⟨problem.assemblyFaults (problem.lessonOutcomes config.allowUnresourced),
    assembledLessons (problem.lessonOutcomes config.allowUnresourced)⟩ = _
  unfold conclude assemble
  dsimp only
  rw [warn_eq]
  cases problem.assemblyFaults (problem.lessonOutcomes config.allowUnresourced) with
  | nil => rfl
  | cons fault others => rfl

end Problem

end SchoolTimetable
