import SchoolTimetable.Proofs.Timetable.Candidates
import SchoolTimetable.Proofs.Timetable.Lookups

/-!
What stands against a snapshot. Assembly reports every class over its capacity, in the order of first
requirements, and then every requirement of an active class that nobody can give or that no room suits, in the
order of requirements. It reports nothing else, ends in no other way, and if there is nothing to report it gives
each requirement of an active class its hours.
-/

namespace SchoolTimetable

namespace Problem

variable {problem : Problem} {config : Config} {requirement : Requirement}

structure Concerns (problem : Problem) (requirement : Requirement) (schoolClass : SchoolClass)
    (subject : Subject) : Prop where
  active : schoolClass ∈ problem.buildClasses
  ofClass : schoolClass.id = requirement.schoolClass
  inCatalog : subject ∈ problem.buildSubjects
  ofSubject : subject.id = requirement.subject

/-- A requirement of a class that is not active. -/
def Idle (problem : Problem) (requirement : Requirement) : Prop :=
  ∀ schoolClass ∈ problem.buildClasses, schoolClass.id ≠ requirement.schoolClass

/-- Why a requirement of an active class has no lessons. That nobody can give them goes before the rooms. -/
inductive Shortfall (problem : Problem) (config : Config) (requirement : Requirement) : AssemblyFault → Prop
  | nobody {schoolClass : SchoolClass} {subject : Subject}
      (concerns : problem.Concerns requirement schoolClass subject)
      (nobody : ∀ teacher, ¬ problem.CanGive requirement schoolClass.grade teacher) :
      Shortfall problem config requirement (.noTeacher requirement.key subject.name schoolClass.grade)
  | nowhere {schoolClass : SchoolClass} {subject : Subject} {teacher : Teacher}
      (concerns : problem.Concerns requirement schoolClass subject)
      (canGive : problem.CanGive requirement schoolClass.grade teacher)
      (nowhere : ∀ room ∈ problem.buildRooms, room.suits requirement.subject = false)
      (roomsNeeded : config.allowUnresourced = false) :
      Shortfall problem config requirement (.noRoom requirement.key subject.name)

/-- A lesson that is still open but for its teacher, the first of those who can give it. -/
structure Opens (problem : Problem) (requirement : Requirement) (lesson : Lesson) : Prop where
  concerns : problem.Concerns requirement lesson.schoolClass lesson.subject
  pattern : lesson.pattern = requirement.pattern
  unplaced : lesson.slot = none ∧ lesson.room = none
  seeded : ∃ first others, lesson.candidateTeachers = first :: others ∧ lesson.teacher = some first
  teachers : ∀ teacher, teacher ∈ lesson.candidateTeachers ↔
    problem.CanGive requirement lesson.schoolClass.grade teacher
  rooms : lesson.candidateRooms = problem.buildRooms.filter (·.suits requirement.subject)

/-- The lessons of a requirement: none if its class is not active, else one for every weekly hour. -/
inductive Given (problem : Problem) (requirement : Requirement) : List Lesson → Prop
  | idle (idle : problem.Idle requirement) : Given problem requirement []
  | hours {lessons : List Lesson} (active : ¬ problem.Idle requirement)
      (length : (lessons.length : Int) = requirement.weeklyHours)
      (opens : ∀ lesson ∈ lessons, problem.Opens requirement lesson) : Given problem requirement lessons

/-- An active class that needs more slots than there are. -/
structure Overfull (problem : Problem) (id : String) : Prop where
  active : ∃ schoolClass ∈ problem.buildClasses, schoolClass.id = id
  tooMany : ((problem.slots.filter (!·.isBreak)).length : Int) <
    slotsNeeded (problem.requirements.filter (·.schoolClass = id))

def overfullFault (problem : Problem) (id : String) : AssemblyFault :=
  .classOverfull id (slotsNeeded (problem.requirements.filter (·.schoolClass = id)))
    (problem.slots.filter (!·.isBreak)).length

/-- The classes over their capacity, each once, in the order of their first requirements. -/
structure OverfullInOrder (problem : Problem) (ids : List String) : Prop where
  exactly : ∀ id, id ∈ ids ↔ problem.Overfull id
  byFirst : ids.Pairwise fun first second =>
    (problem.requirements.map (·.schoolClass)).idxOf first <
      (problem.requirements.map (·.schoolClass)).idxOf second

open scoped Classical in
/-- Faults that are everything that stands against a snapshot, classes first. -/
def Reports (problem : Problem) (config : Config) (faults : List AssemblyFault) : Prop :=
  ∃ ids shortfalls, faults = ids.map problem.overfullFault ++ shortfalls ∧ problem.OverfullInOrder ids ∧
    List.Forall₂ (problem.Shortfall config)
      (problem.requirements.filter fun requirement => ∃ fault, problem.Shortfall config requirement fault)
      shortfalls

/-- Lessons that are those of all requirements in their order. -/
def GivesHours (problem : Problem) (lessons : List Lesson) : Prop :=
  ∃ parts : List (List Lesson), lessons = parts.flatten ∧
    List.Forall₂ problem.Given problem.requirements parts

theorem build_subjects_ids_nodup (valid : problem.Valid) : (problem.buildSubjects.map (·.id)).Nodup := by
  unfold buildSubjects
  rw [List.map_map]
  exact valid.subject_ids_nodup

theorem idle_or_concerns (valid : problem.Valid) (listed : requirement ∈ problem.requirements) :
    problem.Idle requirement ∨ ∃ schoolClass subject, problem.Concerns requirement schoolClass subject := by
  refine or_iff_not_imp_left.2 fun active => ?_
  obtain ⟨schoolClass, activeClass, ofClass⟩ : ∃ schoolClass ∈ problem.buildClasses,
      schoolClass.id = requirement.schoolClass := by
    simpa [Idle] using active
  obtain ⟨subject, found⟩ := Option.ne_none_iff_exists'.1 (find_subject_of_valid valid listed)
  exact ⟨schoolClass, subject, activeClass, ofClass, List.mem_of_find?_eq_some found,
    by simpa using List.find?_some found⟩

theorem lessons_of_idle (idle : problem.Idle requirement) (allowUnresourced : Bool) (idPrefix : String) :
    problem.requirementLessons allowUnresourced problem.facts requirement idPrefix = .ok [] := by
  have missing : problem.buildClasses.find? (·.id == requirement.schoolClass) = none :=
    List.find?_eq_none.2 fun schoolClass active => by simpa using idle schoolClass active
  unfold requirementLessons
  dsimp only [facts]
  rw [missing]

theorem lessons_of_concerns (valid : problem.Valid) {schoolClass : SchoolClass} {subject : Subject}
    (concerns : problem.Concerns requirement schoolClass subject) (allowUnresourced : Bool)
    (idPrefix : String) :
    problem.requirementLessons allowUnresourced problem.facts requirement idPrefix =
      if problem.candidateTeachers problem.buildTeachers requirement schoolClass.grade = [] then
        .error (.noTeacher requirement.key subject.name schoolClass.grade)
      else if problem.buildRooms.filter (·.suits requirement.subject) = [] ∧ allowUnresourced = false then
        .error (.noRoom requirement.key subject.name)
      else .ok (lessonsOf idPrefix requirement schoolClass subject
        (problem.candidateTeachers problem.buildTeachers requirement schoolClass.grade)
        (problem.buildRooms.filter (·.suits requirement.subject))) := by
  have classFound := find_active_class valid concerns.active
  have subjectFound := find_of_distinct (build_subjects_ids_nodup valid) concerns.inCatalog
  rw [concerns.ofClass] at classFound
  rw [concerns.ofSubject] at subjectFound
  unfold requirementLessons
  dsimp only [facts]
  rw [classFound, subjectFound]
  dsimp only
  rw [concerns.ofSubject]
  simp only [List.isEmpty_iff, Bool.and_eq_true, Bool.not_eq_true']

theorem no_room_iff {subject : String} : problem.buildRooms.filter (·.suits subject) = [] ↔
    ∀ room ∈ problem.buildRooms, room.suits subject = false := by
  rw [List.filter_eq_nil_iff]
  exact forall₂_congr fun _ _ => iff_of_eq (Bool.not_eq_true _)

theorem shortfall_iff (valid : problem.Valid) (config : Config)
    (listed : requirement ∈ problem.requirements) (idPrefix : String) (fault : AssemblyFault) :
    problem.requirementLessons config.allowUnresourced problem.facts requirement idPrefix = .error fault ↔
      problem.Shortfall config requirement fault := by
  constructor
  · intro failed
    rcases idle_or_concerns valid listed with idle | ⟨schoolClass, subject, concerns⟩
    · rw [lessons_of_idle idle] at failed
      cases failed
    · rw [lessons_of_concerns valid concerns] at failed
      split at failed
      · rename_i nobody
        obtain rfl := Except.error.inj failed
        exact .nobody concerns ((candidates_nil_iff valid).1 nobody)
      · rename_i somebody
        obtain ⟨teacher, candidate⟩ := List.exists_mem_of_ne_nil _ somebody
        split at failed
        · rename_i unhoused
          obtain rfl := Except.error.inj failed
          exact .nowhere concerns ((mem_candidates_iff valid).1 candidate) (no_room_iff.1 unhoused.1)
            unhoused.2
        · cases failed
  · intro shortfall
    cases shortfall with
    | nobody concerns nobody =>
        rw [lessons_of_concerns valid concerns, if_pos ((candidates_nil_iff valid).2 nobody)]
    | nowhere concerns canGive nowhere roomsNeeded =>
        have somebody := List.ne_nil_of_mem ((mem_candidates_iff valid).2 canGive)
        rw [lessons_of_concerns valid concerns, if_neg somebody,
          if_pos ⟨no_room_iff.2 nowhere, roomsNeeded⟩]

theorem given_of_ok (valid : problem.Valid) (listed : requirement ∈ problem.requirements)
    {allowUnresourced : Bool} {idPrefix : String} {lessons : List Lesson}
    (served : problem.requirementLessons allowUnresourced problem.facts requirement idPrefix =
      .ok lessons) : problem.Given requirement lessons := by
  rcases idle_or_concerns valid listed with idle | ⟨schoolClass, subject, concerns⟩
  · rw [lessons_of_idle idle] at served
    obtain rfl := Except.ok.inj served
    exact .idle idle
  · rw [lessons_of_concerns valid concerns] at served
    split at served
    · cases served
    · rename_i somebody
      split at served
      · cases served
      · obtain rfl := Except.ok.inj served
        refine .hours (fun idle => idle schoolClass concerns.active concerns.ofClass) ?_ ?_
        · have hours := valid.hours requirement listed
          unfold lessonsOf
          rw [List.length_map, List.length_range]
          omega
        · intro lesson member
          obtain ⟨first, others, candidates⟩ := List.exists_cons_of_ne_nil somebody
          obtain ⟨hour, -, rfl⟩ := List.mem_map.1 member
          refine ⟨concerns, rfl, ⟨rfl, rfl⟩, ⟨first, others, candidates, ?_⟩,
            fun _ => mem_candidates_iff valid, rfl⟩
          exact congrArg List.head? candidates

section Classes

theorem active_of_overfull_group {id : String} {members : List Requirement}
    (grouped : (id, members) ∈ Entries.group (·.schoolClass) (problem.requirements.filter fun requirement =>
      (problem.buildClasses.map (·.id)).contains requirement.schoolClass)) :
    id ∈ problem.buildClasses.map (·.id) ∧ members = problem.requirements.filter (·.schoolClass = id) := by
  obtain ⟨rfl, some⟩ := (Entries.mem_group_iff _ _ _ _).1 grouped
  obtain ⟨requirement, kept⟩ := List.exists_mem_of_ne_nil _ some
  obtain ⟨counted, own⟩ := List.mem_filter.1 kept
  have active : id ∈ problem.buildClasses.map (·.id) := by
    rw [← of_decide_eq_true own]
    exact List.contains_iff_mem.1 (List.mem_filter.1 counted).2
  exact ⟨active, requirements_of_active active⟩

private theorem kept_parts {Member Part : Type} (keeps : Member → Prop) [DecidablePred keeps]
    (part : Member → Part) (members : List Member) :
    (members.filterMap fun member => if keeps member then some (part member) else none) =
      (members.filter keeps).map part := by
  induction members with
  | nil => rfl
  | cons member rest ih =>
      by_cases kept : keeps member <;> simp [kept, ih]

/-- The classes over their capacity are reported each once, in the order of their first requirements. -/
theorem overfull_classes_in_order (problem : Problem) :
    ∃ ids, problem.overfullClasses = ids.map problem.overfullFault ∧ problem.OverfullInOrder ids := by
  let groups := Entries.group (·.schoolClass) (problem.requirements.filter fun requirement =>
    (problem.buildClasses.map (·.id)).contains requirement.schoolClass)
  let tooMany := fun id : String => ((problem.slots.filter (!·.isBreak)).length : Int) <
    slotsNeeded (problem.requirements.filter (·.schoolClass = id))
  refine ⟨(Entries.keys groups).filter tooMany, ?_, ?_, ?_⟩
  · rw [← kept_parts, Entries.keys, List.filterMap_map]
    unfold overfullClasses
    dsimp only
    rw [build_slots_length]
    apply List.filterMap_congr
    rintro ⟨id, members⟩ grouped
    rw [(active_of_overfull_group grouped).2]
    rfl
  · intro id
    rw [List.mem_filter, decide_eq_true_eq]
    constructor
    · rintro ⟨listed, tooMany⟩
      obtain ⟨⟨_, members⟩, grouped, rfl⟩ := List.mem_map.1 listed
      exact ⟨List.mem_map.1 (active_of_overfull_group grouped).1, tooMany⟩
    · rintro ⟨active, tooMany⟩
      refine ⟨?_, tooMany⟩
      -- A class that needs more slots than there are has a requirement.
      have some : problem.requirements.filter (·.schoolClass = id) ≠ [] := by
        intro none
        rw [none] at tooMany
        exact absurd tooMany (Int.not_lt.2 (Int.natCast_nonneg _))
      obtain ⟨requirement, kept⟩ := List.exists_mem_of_ne_nil _ some
      obtain ⟨listed, own⟩ := List.mem_filter.1 kept
      obtain rfl := of_decide_eq_true own
      refine (Entries.mem_keys_group _ _ _).2 ⟨requirement, List.mem_filter.2 ⟨listed, ?_⟩, rfl⟩
      exact List.contains_iff_mem.2 (List.mem_map.2 active)
  · exact (Entries.keys_group_in_order (·.schoolClass) (problem.buildClasses.map (·.id)).contains
      problem.requirements).sublist List.filter_sublist

end Classes

open scoped Classical in
theorem shortfalls_in_order (valid : problem.Valid) (config : Config)
    {entries : List (Requirement × String)} (listed : ∀ entry ∈ entries, entry.1 ∈ problem.requirements) :
    List.Forall₂ (problem.Shortfall config)
      ((entries.map (·.1)).filter fun requirement => ∃ fault, problem.Shortfall config requirement fault)
      ((entries.map (problem.outcomeOf config)).filterMap faultOf) := by
  induction entries with
  | nil => exact .nil
  | cons entry rest ih =>
      obtain ⟨own, others⟩ := List.forall_mem_cons.1 listed
      have lacks := shortfall_iff valid config own entry.2
      rw [List.map_cons, List.map_cons, List.filterMap_cons]
      cases outcome : problem.outcomeOf config entry with
      | error fault =>
          have shortfall := (lacks fault).1 outcome
          rw [List.filter_cons, if_pos (decide_eq_true (Exists.intro fault shortfall))]
          exact .cons shortfall (ih others)
      | ok lessons =>
          have served : ¬ ∃ fault, problem.Shortfall config entry.1 fault := by
            rintro ⟨fault, shortfall⟩
            exact nomatch outcome.symm.trans ((lacks fault).2 shortfall)
          rw [List.filter_cons, if_neg (by simpa using served)]
          exact ih others

theorem faults_reported (valid : problem.Valid) (required : problem.requirements ≠ []) (config : Config) :
    problem.Reports config
      (problem.assemblyFaults (problem.lessonOutcomes config.allowUnresourced)) := by
  obtain ⟨ids, overfull, inOrder⟩ := overfull_classes_in_order problem
  have listed : ∀ entry ∈ problem.prefixed, entry.1 ∈ problem.requirements :=
    fun entry kept => (List.of_mem_zip kept).1
  have shortfalls := shortfalls_in_order valid config listed
  rw [problem.requirements_prefixed] at shortfalls
  refine ⟨ids, _, ?_, inOrder, shortfalls⟩
  unfold assemblyFaults
  rw [if_neg (by simpa using required), List.nil_append, overfull]
  rfl

theorem Reports.eq_nil_iff {faults : List AssemblyFault} (reports : problem.Reports config faults) :
    faults = [] ↔ (∀ id, ¬ problem.Overfull id) ∧
      ∀ requirement ∈ problem.requirements, ∀ fault, ¬ problem.Shortfall config requirement fault := by
  obtain ⟨ids, shortfalls, rfl, inOrder, each⟩ := reports
  have noClass : ids = [] ↔ ∀ id, ¬ problem.Overfull id := by
    simp only [List.eq_nil_iff_forall_not_mem, inOrder.exactly]
  have noRequirement : shortfalls = [] ↔
      ∀ requirement ∈ problem.requirements, ∀ fault, ¬ problem.Shortfall config requirement fault := by
    rw [← List.length_eq_zero_iff, ← each.length_eq, List.length_eq_zero_iff, List.filter_eq_nil_iff]
    simp only [decide_eq_true_eq, not_exists]
  rw [List.append_eq_nil_iff, List.map_eq_nil_iff, noClass, noRequirement]

theorem assemble_ends (problem : Problem) (config : Config) :
    (problem.assemblyFaults (problem.lessonOutcomes config.allowUnresourced) = [] ∧
      ∃ warnings, problem.assemble config = .ok (problem.timetableOf
        (assembledLessons (problem.lessonOutcomes config.allowUnresourced)), warnings)) ∨
    (problem.assemblyFaults (problem.lessonOutcomes config.allowUnresourced) ≠ [] ∧
      problem.assemble config =
        .error (problem.assemblyFaults (problem.lessonOutcomes config.allowUnresourced))) := by
  by_cases faultless : problem.assemblyFaults (problem.lessonOutcomes config.allowUnresourced) = []
  · exact .inl ⟨faultless, _, assemble_of_faultless faultless⟩
  · refine .inr ⟨faultless, ?_⟩
    obtain ⟨fault, others, faulty⟩ := List.exists_cons_of_ne_nil faultless
    unfold assemble
    dsimp only
    rw [faulty]

theorem assemble_error_iff {faults : List AssemblyFault} : problem.assemble config = .error faults ↔
    faults ≠ [] ∧ faults = problem.assemblyFaults (problem.lessonOutcomes config.allowUnresourced) := by
  rcases assemble_ends problem config with ⟨none, warnings, assembled⟩ | ⟨some, refused⟩
  · rw [assembled, none]
    exact ⟨fun impossible => (nomatch impossible), fun both => absurd both.2 both.1⟩
  · rw [refused]
    constructor
    · intro same
      obtain rfl := Except.error.inj same
      exact ⟨some, rfl⟩
    · rintro ⟨-, rfl⟩
      rfl

theorem assemble_nothing (nothing : problem.requirements = []) (config : Config) :
    problem.assemble config = .error [.nothingRequired problem.term] := by
  have reported : problem.assemblyFaults (problem.lessonOutcomes config.allowUnresourced) =
      [.nothingRequired problem.term] := by
    unfold assemblyFaults lessonOutcomes overfullClasses
    rw [nothing]
    rfl
  exact assemble_error_iff.2 ⟨List.cons_ne_nil _ _, reported.symm⟩

/-- A snapshot is assembled exactly if something is required and nothing stands against it. -/
theorem assembles_iff (valid : problem.Valid) (config : Config) :
    (∃ timetable warnings, problem.assemble config = .ok (timetable, warnings)) ↔
      problem.requirements ≠ [] ∧ (∀ id, ¬ problem.Overfull id) ∧
        ∀ requirement ∈ problem.requirements, ∀ fault, ¬ problem.Shortfall config requirement fault := by
  by_cases required : problem.requirements = []
  · rw [assemble_nothing required]
    exact ⟨fun ⟨_, _, impossible⟩ => (nomatch impossible), fun both => absurd required both.1⟩
  · rw [← (faults_reported valid required config).eq_nil_iff]
    rcases assemble_ends problem config with ⟨none, warnings, assembled⟩ | ⟨faulty, refused⟩
    · exact ⟨fun _ => ⟨required, none⟩, fun _ => ⟨_, warnings, assembled⟩⟩
    · rw [refused]
      exact ⟨fun ⟨_, _, impossible⟩ => (nomatch impossible), fun both => absurd both.2 faulty⟩

theorem refused_iff : (∃ faults, problem.assemble config = .error faults) ↔
    ¬ ∃ timetable warnings, problem.assemble config = .ok (timetable, warnings) := by
  rcases assemble_ends problem config with ⟨-, warnings, assembled⟩ | ⟨-, refused⟩
  · rw [assembled]
    exact ⟨fun ⟨_, impossible⟩ => (nomatch impossible), fun none => absurd ⟨_, _, rfl⟩ none⟩
  · rw [refused]
    exact ⟨fun _ ⟨_, _, impossible⟩ => (nomatch impossible), fun _ => ⟨_, rfl⟩⟩

/-- What is assembled gives every requirement of an active class its hours. -/
theorem hours_of_assembled (valid : problem.Valid) {timetable : Timetable}
    {warnings : List WorkloadWarning} (assembled : problem.assemble config = .ok (timetable, warnings)) :
    problem.GivesHours timetable.lessons := by
  refine ⟨problem.prefixed.map (problem.lessonsFor config), ?_, ?_⟩
  · rw [(assemble_ok assembled).1, ← List.flatMap_def]
    rfl
  · rw [← problem.requirements_prefixed, List.forall₂_map_left_iff, List.forall₂_map_right_iff,
      List.forall₂_same]
    intro entry kept
    exact given_of_ok valid (List.of_mem_zip kept).1 (served_of_assembled assembled kept)

/-- No look-up of assembly misses its key. It is refused exactly if a class is over its capacity or nobody can
give a requirement of an active class or no room suits it, reports all that and nothing else, and otherwise gives
all requirements their hours. -/
theorem assembly_reports_exactly_what_is_lacking {document : Json} (accepted : read document = .ok problem)
    (required : problem.requirements ≠ []) (config : Config) :
    problem.attempt config = .ok (problem.assemble config) ∧
    ((∃ faults, problem.assemble config = .error faults) ↔ (∃ id, problem.Overfull id) ∨
      ∃ requirement ∈ problem.requirements, ∃ fault, problem.Shortfall config requirement fault) ∧
    (∀ faults, problem.assemble config = .error faults → problem.Reports config faults) ∧
    ∀ timetable warnings, problem.assemble config = .ok (timetable, warnings) →
      problem.GivesHours timetable.lessons := by
  have valid := valid_of_read accepted
  refine ⟨attempt_eq valid config, ?_, ?_, fun _ _ assembled => hours_of_assembled valid assembled⟩
  · rw [refused_iff, assembles_iff valid config]
    simp only [Ne, required, not_false_eq_true, true_and, not_and_or, not_forall, not_not, exists_prop]
  · intro faults refused
    rw [(assemble_error_iff.1 refused).2]
    exact faults_reported valid required config

/-- A term with one slot and a break. Class 6b needs two slots and has neither a teacher nor a room, class 5a
needs two slots and has no room for art, and class 7c is not active. -/
def lackingTerm : Problem where
  term := "T"
  slots := [⟨"first", 0, 1, none, none, false⟩, ⟨"pause", 0, 2, none, none, true⟩]
  rooms := [⟨"hall", none, none, ["math"], true⟩, ⟨"studio", none, none, [], false⟩]
  subjects := [⟨"math", "Mathematics", none⟩, ⟨"art", "Art", none⟩]
  classes :=
    [⟨"5a", "5a", 5, none, none, true⟩, ⟨"6b", "6b", 6, none, none, true⟩,
      ⟨"7c", "7c", 7, none, none, false⟩]
  teachers := [⟨"meier", "Meier", none, 28, true⟩, ⟨"huber", "Huber", none, 28, false⟩]
  qualifications :=
    [⟨"meier", "math", .primary, some [5], none⟩, ⟨"meier", "art", .primary, some [5], none⟩,
      ⟨"huber", "art", .primary, some [6], none⟩]
  availabilities := []
  requirements :=
    [⟨none, "7c", "math", 20, .every, []⟩, ⟨some "r1", "6b", "art", 2, .every, []⟩,
      ⟨some "r2", "5a", "math", 1, .every, ["huber", "meier"]⟩, ⟨some "r3", "5a", "art", 1, .every, []⟩]

theorem lacking_term_read : read lackingTerm.write = .ok lackingTerm := by decide +kernel

theorem lacking_term_is_refused : read lackingTerm.write = .ok lackingTerm ∧
    lackingTerm.requirements ≠ [] ∧
    lackingTerm.assemble .standard = .error
      [.classOverfull "6b" 2 1, .classOverfull "5a" 2 1, .noTeacher "r1" "Art" 6, .noRoom "r3" "Art"] ∧
    lackingTerm.Reports .standard
      [.classOverfull "6b" 2 1, .classOverfull "5a" 2 1, .noTeacher "r1" "Art" 6, .noRoom "r3" "Art"] := by
  have required : lackingTerm.requirements ≠ [] := by decide
  have refused : lackingTerm.assemble .standard = .error
      [.classOverfull "6b" 2 1, .classOverfull "5a" 2 1, .noTeacher "r1" "Art" 6, .noRoom "r3" "Art"] := by
    decide +kernel
  exact ⟨lacking_term_read, required, refused,
    (assembly_reports_exactly_what_is_lacking lacking_term_read required .standard).2.2.1 _ refused⟩

section Emptiness

theorem Given.eq_nil_iff {lessons : List Lesson} (given : problem.Given requirement lessons)
    (hours : 1 ≤ requirement.weeklyHours) : lessons = [] ↔ problem.Idle requirement := by
  cases given with
  | idle idle => exact ⟨fun _ => idle, fun _ => rfl⟩
  | hours active length opens =>
      refine ⟨?_, fun idle => absurd idle active⟩
      rintro rfl
      rw [List.length_nil] at length
      omega

theorem parts_nil_iff {requirements : List Requirement} {parts : List (List Lesson)}
    (hours : ∀ requirement ∈ requirements, 1 ≤ requirement.weeklyHours)
    (each : List.Forall₂ problem.Given requirements parts) :
    parts.flatten = [] ↔ ∀ requirement ∈ requirements, problem.Idle requirement := by
  induction each with
  | nil => simp
  | cons own _ ih =>
      obtain ⟨ownHours, otherHours⟩ := List.forall_mem_cons.1 hours
      rw [List.flatten_cons, List.append_eq_nil_iff, own.eq_nil_iff ownHours, ih otherHours,
        List.forall_mem_cons]

theorem GivesHours.eq_nil_iff {lessons : List Lesson} (given : problem.GivesHours lessons)
    (valid : problem.Valid) :
    lessons = [] ↔ ∀ requirement ∈ problem.requirements, problem.Idle requirement := by
  obtain ⟨parts, rfl, each⟩ := given
  exact parts_nil_iff valid.hours each

theorem faultless_of_idle (idle : ∀ requirement ∈ problem.requirements, problem.Idle requirement) :
    (∀ id, ¬ problem.Overfull id) ∧
      ∀ requirement ∈ problem.requirements, ∀ fault, ¬ problem.Shortfall config requirement fault := by
  constructor
  · rintro id ⟨⟨schoolClass, active, rfl⟩, tooMany⟩
    have none : problem.requirements.filter (·.schoolClass = schoolClass.id) = [] := by
      rw [List.filter_eq_nil_iff]
      intro requirement listed own
      exact idle requirement listed schoolClass active (of_decide_eq_true own).symm
    rw [none] at tooMany
    exact absurd tooMany (Int.not_lt.2 (Int.natCast_nonneg _))
  · intro requirement listed fault shortfall
    cases shortfall with
    | nobody concerns => exact idle requirement listed _ concerns.active concerns.ofClass
    | nowhere concerns => exact idle requirement listed _ concerns.active concerns.ofClass

/-- A snapshot without requirements is refused. One with requirements that are all idle is not: it is the only
kind that is assembled to a timetable without lessons. -/
theorem only_idle_requirements_give_no_lessons {document : Json} (accepted : read document = .ok problem)
    (config : Config) :
    (problem.requirements = [] → problem.assemble config = .error [.nothingRequired problem.term]) ∧
    ((∃ timetable warnings, problem.assemble config = .ok (timetable, warnings) ∧ timetable.lessons = []) ↔
      problem.requirements ≠ [] ∧ ∀ requirement ∈ problem.requirements, problem.Idle requirement) := by
  have valid := valid_of_read accepted
  refine ⟨fun nothing => assemble_nothing nothing config, ?_, ?_⟩
  · rintro ⟨timetable, warnings, assembled, noLessons⟩
    refine ⟨?_, ((hours_of_assembled valid assembled).eq_nil_iff valid).1 noLessons⟩
    intro nothing
    rw [assemble_nothing nothing config] at assembled
    cases assembled
  · rintro ⟨required, idle⟩
    obtain ⟨timetable, warnings, assembled⟩ :=
      (assembles_iff valid config).2 ⟨required, faultless_of_idle idle⟩
    exact ⟨timetable, warnings, assembled,
      ((hours_of_assembled valid assembled).eq_nil_iff valid).2 idle⟩

def idleTerm : Problem where
  term := "T"
  slots := [⟨"first", 0, 1, none, none, false⟩]
  rooms := [⟨"hall", none, none, [], true⟩]
  subjects := [⟨"math", "Mathematics", none⟩]
  classes := [⟨"5a", "5a", 5, none, none, false⟩]
  teachers := [⟨"meier", "Meier", none, 28, true⟩]
  qualifications := [⟨"meier", "math", .primary, some [5], none⟩]
  availabilities := []
  requirements := [⟨some "r1", "5a", "math", 1, .every, []⟩]

theorem idle_term_read : read idleTerm.write = .ok idleTerm := by decide +kernel

theorem idle_term_gives_no_lessons : read idleTerm.write = .ok idleTerm ∧
    ∃ timetable warnings, idleTerm.assemble .standard = .ok (timetable, warnings) ∧
      timetable.lessons = [] := by
  have idle : ∀ requirement ∈ idleTerm.requirements, idleTerm.Idle requirement :=
    fun _ _ schoolClass active => absurd active (List.not_mem_nil (a := schoolClass))
  exact ⟨idle_term_read,
    (only_idle_requirements_give_no_lessons idle_term_read .standard).2.2 ⟨by decide, idle⟩⟩

/-- An accepted snapshot with nothing to schedule that is not refused. -/
theorem idle_term_is_not_refused : read idleTerm.write = .ok idleTerm ∧
    idleTerm.assemble .standard = .ok (idleTerm.timetableOf [], []) := by
  decide +kernel

end Emptiness

end Problem

end SchoolTimetable
