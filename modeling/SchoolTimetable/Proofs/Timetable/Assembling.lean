import SchoolTimetable.Proofs.Problem.Sources
import SchoolTimetable.Proofs.Timetable.Assembled
import SchoolTimetable.Proofs.Timetable.LessonIds

/-!
When a snapshot can be assembled. It is enough that something is required, that no class needs more slots than
there are, and that every requirement has a class, a subject, a teacher and a room; the timetable then has one
lesson for every required hour.
-/

namespace SchoolTimetable

namespace Problem

variable {problem : Problem} {config : Config}

structure CanServe (problem : Problem) (requirement : Requirement) : Prop where
  hasClass : ∃ schoolClass, problem.buildClasses.find? (·.id == requirement.schoolClass) = some schoolClass ∧
    problem.candidateTeachers problem.buildTeachers requirement schoolClass.grade ≠ []
  hasSubject : ∃ subject, problem.buildSubjects.find? (·.id == requirement.subject) = some subject ∧
    (problem.buildRooms.filter fun room => room.suits subject.id) ≠ []

theorem requirement_lessons_of_can_serve {requirement : Requirement} (serve : problem.CanServe requirement)
    (allowUnresourced : Bool) (idPrefix : String) :
    ∃ lessons, problem.requirementLessons allowUnresourced problem.facts requirement idPrefix = .ok lessons ∧
      lessons.length = requirement.weeklyHours.toNat := by
  obtain ⟨⟨schoolClass, classFound, teachers⟩, subject, subjectFound, rooms⟩ := serve
  refine ⟨lessonsOf idPrefix requirement schoolClass subject
    (problem.candidateTeachers problem.buildTeachers requirement schoolClass.grade)
    (problem.buildRooms.filter fun room => room.suits subject.id), ?_, ?_⟩
  · unfold requirementLessons
    dsimp only [facts]
    rw [classFound, subjectFound]
    dsimp only
    rw [if_neg (by simpa using teachers), if_neg]
    intro noRoom
    rw [Bool.and_eq_true] at noRoom
    exact rooms (List.isEmpty_iff.1 noRoom.1)
  · unfold lessonsOf
    rw [List.length_map, List.length_range]

theorem build_slots_length : problem.buildSlots.length = (problem.slots.filter (!·.isBreak)).length := by
  unfold buildSlots assignableSlots
  rw [List.length_map, List.length_mergeSort]

/-- The requirements that are counted for an active class are all that it has. -/
theorem requirements_of_active {id : String} (active : id ∈ problem.buildClasses.map (·.id)) :
    (problem.requirements.filter fun requirement =>
        (problem.buildClasses.map (·.id)).contains requirement.schoolClass).filter (·.schoolClass = id) =
      problem.requirements.filter (·.schoolClass = id) := by
  rw [List.filter_filter]
  apply List.filter_congr
  intro requirement _
  by_cases own : requirement.schoolClass = id
  · rw [own, List.contains_iff_mem.2 active, Bool.and_true]
  · simp [own]

/-- An active class is overfull exactly if its requirements need more slots than there are. -/
theorem class_overfull_iff {id : String} (active : id ∈ problem.buildClasses.map (·.id)) :
    (∃ needed, .classOverfull id needed (problem.slots.filter (!·.isBreak)).length ∈
      problem.overfullClasses) ↔
      ((problem.slots.filter (!·.isBreak)).length : Int) <
        slotsNeeded (problem.requirements.filter (·.schoolClass = id)) := by
  unfold overfullClasses
  dsimp only
  rw [build_slots_length]
  constructor
  · rintro ⟨needed, reported⟩
    obtain ⟨⟨own, members⟩, grouped, overfull⟩ := List.mem_filterMap.1 reported
    obtain ⟨rfl, -⟩ := (Entries.mem_group_iff _ _ _ _).1 grouped
    dsimp only at overfull
    split at overfull
    · rename_i tooMany
      injection overfull with same
      injection same with sameClass
      subst sameClass
      rwa [requirements_of_active active] at tooMany
    · cases overfull
  · intro tooMany
    have some : problem.requirements.filter (·.schoolClass = id) ≠ [] := by
      intro none
      rw [none] at tooMany
      exact absurd tooMany (Int.not_lt.2 (Int.natCast_nonneg _))
    have grouped := (Entries.mem_group_iff (·.schoolClass) _ id _).2
      ⟨(requirements_of_active active).symm, some⟩
    exact ⟨_, List.mem_filterMap.2 ⟨_, grouped, if_pos tooMany⟩⟩

/-- Classes are overfull only where one of the active classes needs more slots than there are. -/
theorem no_overfull_classes
    (roomy : ∀ entry ∈ problem.classes, entry.active = true →
      slotsNeeded (problem.requirements.filter (·.schoolClass = entry.id)) ≤
        ((problem.slots.filter (!·.isBreak)).length : Int)) : problem.overfullClasses = [] := by
  unfold overfullClasses
  dsimp only
  rw [List.filterMap_eq_nil_iff]
  rintro ⟨id, members⟩ grouped
  obtain ⟨rfl, some⟩ := (Entries.mem_group_iff _ _ _ _).1 grouped
  obtain ⟨requirement, member⟩ := List.exists_mem_of_ne_nil _ some
  obtain ⟨active, own⟩ := List.mem_filter.1 member
  obtain ⟨-, known⟩ := List.mem_filter.1 active
  obtain rfl := of_decide_eq_true own
  have isActive := List.contains_iff_mem.1 known
  obtain ⟨built, inClasses, same⟩ := List.mem_map.1 isActive
  obtain ⟨entry, kept, rfl⟩ := List.mem_map.1 inClasses
  obtain ⟨listed, entryActive⟩ := List.mem_filter.1 kept
  have needed := roomy entry listed entryActive
  change entry.id = requirement.schoolClass at same
  rw [requirements_of_active isActive, build_slots_length, ← same, if_neg (Int.not_lt.2 needed)]

def outcomeOf (problem : Problem) (config : Config) (entry : Requirement × String) :
    Except AssemblyFault (List Lesson) :=
  problem.requirementLessons config.allowUnresourced problem.facts entry.1 entry.2

theorem count_assembled_lessons {entries : List (Requirement × String)}
    (hours : ∀ entry ∈ entries, 1 ≤ entry.1.weeklyHours)
    (served : ∀ entry ∈ entries, problem.CanServe entry.1) :
    ((assembledLessons (entries.map (problem.outcomeOf config))).length : Int) =
      Requirement.totalHours (entries.map (·.1)) := by
  induction entries with
  | nil => rfl
  | cons entry rest ih =>
      obtain ⟨own, others⟩ := List.forall_mem_cons.1 hours
      obtain ⟨ownServed, othersServed⟩ := List.forall_mem_cons.1 served
      obtain ⟨lessons, outcome, length⟩ :=
        requirement_lessons_of_can_serve ownServed config.allowUnresourced entry.2
      have counted := ih others othersServed
      unfold assembledLessons at counted ⊢
      rw [List.map_cons, List.flatMap_cons, outcomeOf, outcome, List.map_cons, List.length_append]
      change _ = entry.1.weeklyHours + Requirement.totalHours (rest.map (·.1))
      dsimp only
      omega

/-- A snapshot that lacks nothing is assembled to a timetable with one lesson for every required hour. -/
theorem assembles (config : Config) (some : problem.requirements ≠ []) (roomy : problem.overfullClasses = [])
    (hours : ∀ requirement ∈ problem.requirements, 1 ≤ requirement.weeklyHours)
    (served : ∀ requirement ∈ problem.requirements, problem.CanServe requirement) :
    ∃ timetable warnings, problem.assemble config = .ok (timetable, warnings) ∧
      (timetable.lessons.length : Int) = problem.totalHours := by
  have known : ∀ entry ∈ problem.prefixed, entry.1 ∈ problem.requirements := by
    intro entry listed
    rw [← problem.requirements_prefixed]
    exact List.mem_map_of_mem listed
  have outcomes : problem.lessonOutcomes config.allowUnresourced =
      problem.prefixed.map (problem.outcomeOf config) := rfl
  have length : ((assembledLessons (problem.lessonOutcomes config.allowUnresourced)).length : Int) =
      problem.totalHours := by
    rw [outcomes, count_assembled_lessons (fun entry listed => hours _ (known entry listed))
      fun entry listed => served _ (known entry listed), problem.requirements_prefixed]
    rfl
  have noFaults : problem.assemblyFaults (problem.lessonOutcomes config.allowUnresourced) = [] := by
    unfold assemblyFaults
    rw [roomy, if_neg (by simpa using some), List.nil_append, List.nil_append, List.filterMap_eq_nil_iff,
      outcomes]
    intro outcome listed
    obtain ⟨entry, prefixed, rfl⟩ := List.mem_map.1 listed
    obtain ⟨lessons, done, -⟩ := requirement_lessons_of_can_serve (served _ (known entry prefixed))
      config.allowUnresourced entry.2
    rw [outcomeOf, done]
  exact ⟨_, _, assemble_of_faultless noFaults, length⟩

end Problem

end SchoolTimetable
