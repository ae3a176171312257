import SchoolTimetable.Proofs.Search.Completion
import SchoolTimetable.Timetable.Assembly

/-!
What assembly gives. A snapshot that is assembled has a teacher for every requirement of an active
class, and a room unless lessons without one are allowed; its lessons are one for each weekly hour,
still open, and construction can complete them.
-/

namespace SchoolTimetable

namespace Problem

variable {problem : Problem} {config : Config} {timetable : Timetable}
  {warnings : List WorkloadWarning}

inductive Serves (problem : Problem) (allowUnresourced : Bool) (requirement : Requirement)
    (idPrefix : String) : List Lesson → Prop
  | inactive
      (missing : problem.buildClasses.find? (·.id == requirement.schoolClass) = none ∨
        problem.buildSubjects.find? (·.id == requirement.subject) = none) :
      Serves problem allowUnresourced requirement idPrefix []
  | active {schoolClass : SchoolClass} {subject : Subject}
      (classFound : problem.buildClasses.find? (·.id == requirement.schoolClass) = some schoolClass)
      (subjectFound : problem.buildSubjects.find? (·.id == requirement.subject) = some subject)
      (teachers : problem.candidateTeachers problem.buildTeachers requirement schoolClass.grade ≠ [])
      (rooms : (problem.buildRooms.filter fun room => room.suits subject.id) ≠ [] ∨ allowUnresourced) :
      Serves problem allowUnresourced requirement idPrefix
        (lessonsOf idPrefix requirement schoolClass subject
          (problem.candidateTeachers problem.buildTeachers requirement schoolClass.grade)
          (problem.buildRooms.filter fun room => room.suits subject.id))

theorem serves_of_requirement_lessons {allowUnresourced : Bool} {requirement : Requirement}
    {idPrefix : String} {lessons : List Lesson}
    (served : problem.requirementLessons allowUnresourced problem.facts requirement idPrefix =
      .ok lessons) : Serves problem allowUnresourced requirement idPrefix lessons := by
  unfold requirementLessons at served
  dsimp only [facts] at served
  split at served
  · rename_i schoolClass subject classFound subjectFound
    split at served
    · cases served
    · rename_i someTeachers
      split at served
      · cases served
      · rename_i housed
        obtain rfl := Except.ok.inj served
        refine .active classFound subjectFound (by simpa using someTeachers) ?_
        rw [Bool.and_eq_true, not_and_or] at housed
        exact housed.imp (by simp) (by simp)
  · rename_i missing
    obtain rfl := Except.ok.inj served
    apply Serves.inactive
    cases classFound : problem.buildClasses.find? (·.id == requirement.schoolClass) with
    | none => exact .inl rfl
    | some schoolClass =>
        cases subjectFound : problem.buildSubjects.find? (·.id == requirement.subject) with
        | none => exact .inr rfl
        | some subject => exact absurd subjectFound (missing schoolClass subject classFound)

def prefixed (problem : Problem) : List (Requirement × String) :=
  problem.requirements.zip (lessonPrefixes [] problem.requirements)

/-- The lessons of a requirement, none if it cannot be served. -/
def lessonsFor (problem : Problem) (config : Config) (entry : Requirement × String) : List Lesson :=
  match problem.requirementLessons config.allowUnresourced problem.facts entry.1 entry.2 with
  | .ok lessons => lessons
  | .error _ => []

theorem assemble_ok (assembled : problem.assemble config = .ok (timetable, warnings)) :
    timetable = problem.timetableOf (problem.prefixed.flatMap (problem.lessonsFor config)) ∧
      problem.assemblyFaults (problem.lessonOutcomes config.allowUnresourced) = [] := by
  unfold assemble at assembled
  dsimp only at assembled
  split at assembled
  · rename_i faultless
    obtain ⟨rfl, -⟩ := Prod.mk.inj (Except.ok.inj assembled)
    refine ⟨?_, faultless⟩
    unfold assembledLessons lessonOutcomes prefixed
    rw [List.flatMap_map]
    rfl
  · cases assembled

theorem assemble_of_faultless
    (faultless : problem.assemblyFaults (problem.lessonOutcomes config.allowUnresourced) = []) :
    problem.assemble config =
      .ok (problem.timetableOf (assembledLessons (problem.lessonOutcomes config.allowUnresourced)),
        problem.workloadWarnings (assembledLessons (problem.lessonOutcomes config.allowUnresourced))) := by
  unfold assemble
  dsimp only
  rw [faultless]

theorem working_of_assembled (assembled : problem.assemble config = .ok (timetable, warnings)) :
    timetable.isFinal = false := by
  rw [(assemble_ok assembled).1]
  rfl

theorem served_of_assembled (assembled : problem.assemble config = .ok (timetable, warnings))
    {entry : Requirement × String} (listed : entry ∈ problem.prefixed) :
    problem.requirementLessons config.allowUnresourced problem.facts entry.1 entry.2 =
      .ok (problem.lessonsFor config entry) := by
  have faultless := (assemble_ok assembled).2
  unfold lessonsFor
  cases outcome : problem.requirementLessons config.allowUnresourced problem.facts entry.1 entry.2 with
  | ok lessons => rfl
  | error fault =>
      have reported : fault ∈ problem.assemblyFaults
          (problem.lessonOutcomes config.allowUnresourced) := by
        unfold assemblyFaults
        apply List.mem_append_right
        have recorded : .error fault ∈ problem.lessonOutcomes config.allowUnresourced := by
          rw [← outcome]
          exact List.mem_map_of_mem listed
        exact List.mem_filterMap.2 ⟨.error fault, recorded, rfl⟩
      rw [faultless] at reported
      cases reported

theorem serves_lessons_for (assembled : problem.assemble config = .ok (timetable, warnings))
    {entry : Requirement × String} (listed : entry ∈ problem.prefixed) :
    Serves problem config.allowUnresourced entry.1 entry.2 (problem.lessonsFor config entry) :=
  serves_of_requirement_lessons (served_of_assembled assembled listed)

theorem serves_of_mem_assembled (assembled : problem.assemble config = .ok (timetable, warnings))
    {lesson : Lesson} (listed : lesson ∈ timetable.lessons) :
    ∃ entry ∈ problem.prefixed, lesson ∈ problem.lessonsFor config entry ∧
      Serves problem config.allowUnresourced entry.1 entry.2 (problem.lessonsFor config entry) := by
  rw [(assemble_ok assembled).1] at listed
  obtain ⟨entry, recorded, member⟩ := List.mem_flatMap.1 listed
  exact ⟨entry, recorded, member, serves_lessons_for assembled recorded⟩

theorem completable_of_mem_assembled
    (assembled : problem.assemble config = .ok (timetable, warnings)) {lesson : Lesson}
    (listed : lesson ∈ timetable.lessons) :
    lesson.Completable timetable.slots ∧
      (lesson.candidateRooms ≠ [] ∨ config.allowUnresourced) := by
  obtain ⟨entry, -, member, serves⟩ := serves_of_mem_assembled assembled listed
  generalize problem.lessonsFor config entry = lessons at member serves
  cases serves with
  | inactive => cases member
  | active classFound subjectFound teachers rooms =>
      obtain ⟨hour, -, rfl⟩ := List.mem_map.1 member
      exact ⟨⟨teachers, .inl ⟨rfl, rfl⟩⟩, rooms⟩

/-- An assembled lesson has no room yet, and all teachers for it are qualified. -/
theorem qualified_of_mem_assembled
    (assembled : problem.assemble config = .ok (timetable, warnings)) {lesson : Lesson}
    (listed : lesson ∈ timetable.lessons) :
    lesson.room = none ∧ ∀ teacher ∈ lesson.candidateTeachers,
      teacher.isQualifiedFor lesson.subject.id lesson.schoolClass.grade = true := by
  rcases serves_of_mem_assembled assembled listed with ⟨entry, -, member, serves⟩
  generalize problem.lessonsFor config entry = lessons at member serves
  cases serves with
  | inactive => cases member
  | @active schoolClass subject classFound subjectFound teachers rooms =>
      have sameSubject : subject.id = entry.1.subject := by simpa using List.find?_some subjectFound
      rcases List.mem_map.1 member with ⟨hour, -, rfl⟩
      refine ⟨rfl, ?_⟩
      intro teacher candidate
      change teacher.isQualifiedFor subject.id schoolClass.grade = true
      rw [sameSubject]
      have kept := (List.mergeSort_perm _ _).mem_iff.1 candidate
      exact (List.mem_filter.1 kept).2

end Problem

end SchoolTimetable
