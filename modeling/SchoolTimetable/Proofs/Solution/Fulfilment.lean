import SchoolTimetable.Proofs.Evaluation.Feasibility
import SchoolTimetable.Proofs.Problem.Sources
import SchoolTimetable.Proofs.Solution.Resolution
import SchoolTimetable.Proofs.Timetable.LessonIds

/-!
What a solution without hard points lost means for the snapshot it was found for. Its records are the
hours that the requirements of active classes ask for, in slots that can be used, and in neither of the
two weeks is a teacher, a room or a class in two of them at once; whoever gives them and wherever they
are held may do so by the records of the snapshot.
-/

namespace SchoolTimetable

namespace Problem

def Requires (problem : Problem) (requirement : Requirement) : Prop :=
  ∃ entry ∈ problem.classes, entry.id = requirement.schoolClass ∧ entry.active = true

structure MayTeach (problem : Problem) (requirement : Requirement) (day period : Int)
    (teacher : String) : Prop where
  active : ∃ entry ∈ problem.teachers, entry.active = true ∧ entry.id = teacher
  named : requirement.candidates ≠ [] → teacher ∈ requirement.candidates
  qualified : ∃ entry ∈ problem.classes, entry.id = requirement.schoolClass ∧ entry.active = true ∧
    ∃ record ∈ problem.qualifications, record.teacher = teacher ∧
      record.subject = requirement.subject ∧
      ∃ grades, record.grades = some grades ∧ entry.grade ∈ grades
  free : ∀ record ∈ problem.availabilities, record.teacher = teacher → record.kind = .blocked →
    (record.term = none ∨ record.term = some problem.term) →
      ¬ (record.day = day ∧ record.period = period)

def MayHouse (problem : Problem) (requirement : Requirement) (room : String) : Prop :=
  ∃ entry ∈ problem.rooms, entry.active = true ∧ entry.id = room ∧
    (entry.suitableSubjects = [] ∨ requirement.subject ∈ entry.suitableSubjects) ∧
    ∃ schoolClass ∈ problem.classes, schoolClass.id = requirement.schoolClass ∧
      ∀ capacity students, entry.capacity = some capacity → schoolClass.studentCount = some students →
        students ≤ capacity

structure Answers (problem : Problem) (record : LessonRecord) (requirement : Requirement) : Prop where
  schoolClass : record.schoolClass = requirement.schoolClass
  subject : record.subject = requirement.subject
  pattern : record.pattern = requirement.pattern
  teacher : ∀ teacher, record.teacher = some teacher →
    problem.MayTeach requirement record.day record.period teacher
  room : ∀ room, record.room = some room → problem.MayHouse requirement room

end Problem

/-- Two records in one slot share no class, no teacher and no room. -/
def LessonRecord.Apart (first second : LessonRecord) : Prop :=
  first.slot = second.slot → first.schoolClass ≠ second.schoolClass ∧
    (∀ teacher, first.teacher = some teacher → second.teacher ≠ some teacher) ∧
    ∀ room, first.room = some room → second.room ≠ some room

open scoped Classical in
/-- Records are what a snapshot asks for. Each requirement has a prefix of its own, which the ids of its
lessons carry. -/
structure Problem.Fulfils (problem : Problem) (records : List LessonRecord) : Prop where
  prefixes : problem.prefixed.map (·.1) = problem.requirements ∧ (problem.prefixed.map (·.2)).Nodup
  hours : ∀ entry ∈ problem.prefixed, problem.Requires entry.1 →
    ((records.filter fun record => CarriesPrefix entry.2 record.lesson).length : Int) =
      entry.1.weeklyHours
  traced : ∀ record ∈ records, ∃ entry ∈ problem.prefixed,
    problem.Requires entry.1 ∧ CarriesPrefix entry.2 record.lesson
  answers : ∀ entry ∈ problem.prefixed, ∀ record ∈ records, CarriesPrefix entry.2 record.lesson →
    problem.Answers record entry.1
  slots : ∀ record ∈ records, ∃ slot ∈ problem.slots, slot.isBreak = false ∧
    slot.id = record.slot ∧ slot.day = record.day ∧ slot.period = record.period
  weeks : ∀ week ∈ [WeekPattern.a, .b],
    (records.filter fun record => record.pattern = .every ∨ record.pattern = week).Pairwise
      LessonRecord.Apart

/-- A lesson is an hour of a requirement, with all who can give it and all rooms that suit it. -/
structure Lesson.TracesTo (problem : Problem) (entry : Requirement × String) (lesson : Lesson) :
    Prop where
  carries : CarriesPrefix entry.2 lesson.id
  schoolClass : problem.buildClasses.find? (·.id == entry.1.schoolClass) = some lesson.schoolClass
  subject : lesson.subject.id = entry.1.subject
  pattern : lesson.pattern = entry.1.pattern
  teachers : lesson.candidateTeachers =
    problem.candidateTeachers problem.buildTeachers entry.1 lesson.schoolClass.grade
  rooms : lesson.candidateRooms = problem.buildRooms.filter fun room => room.suits entry.1.subject

namespace Problem

variable {problem : Problem} {config : Config} {timetable : Timetable} {warnings : List WorkloadWarning}

theorem Serves.traces {allowUnresourced : Bool} {entry : Requirement × String} {lessons : List Lesson}
    (serves : Serves problem allowUnresourced entry.1 entry.2 lessons) {lesson : Lesson}
    (listed : lesson ∈ lessons) : lesson.TracesTo problem entry := by
  cases serves with
  | inactive => cases listed
  | @active schoolClass subject classFound subjectFound teachers rooms =>
      obtain ⟨hour, -, rfl⟩ := List.mem_map.1 listed
      have sameSubject : subject.id = entry.1.subject := by simpa using List.find?_some subjectFound
      exact ⟨⟨hour + 1, rfl⟩, classFound, sameSubject, rfl, rfl, by rw [← sameSubject]⟩

/-- A requirement of an active class has a lesson for every hour, one of another class none. -/
theorem Serves.length {allowUnresourced : Bool} {entry : Requirement × String} {lessons : List Lesson}
    (serves : Serves problem allowUnresourced entry.1 entry.2 lessons) (valid : problem.Valid)
    (listed : entry.1 ∈ problem.requirements) (required : problem.Requires entry.1) :
    (lessons.length : Int) = entry.1.weeklyHours := by
  obtain ⟨schoolClass, member, same, active⟩ := required
  cases serves with
  | inactive missing =>
      rcases missing with noClass | noSubject
      · rw [← same] at noClass
        exact absurd noClass (find_class_of_active member active)
      · exact absurd noSubject (find_subject_of_valid valid listed)
  | active =>
      have hours := valid.hours entry.1 listed
      unfold lessonsOf
      rw [List.length_map, List.length_range]
      omega

theorem requires_of_traces {entry : Requirement × String} {lesson : Lesson}
    (traces : lesson.TracesTo problem entry) : problem.Requires entry.1 := by
  obtain ⟨schoolClass, member, active, same, -⟩ := class_of_find traces.schoolClass
  exact ⟨schoolClass, member, same, active⟩

/-- A lesson in range that matches no hard constraint has a record that answers its requirement. -/
theorem answers_of_traces {entry : Requirement × String} {lesson : Lesson} {slots : List TimeSlot}
    {slot : TimeSlot} (term : String) (traces : lesson.TracesTo problem entry)
    (inRange : lesson.InRange slots) (faultless : lesson.Faultless) (seated : lesson.slot = some slot) :
    problem.Answers (lesson.recordAt term slot) entry.1 := by
  obtain ⟨schoolClass, member, active, same, facts⟩ := class_of_find traces.schoolClass
  refine ⟨?_, traces.subject, traces.pattern, ?_, ?_⟩
  · change lesson.schoolClass.id = entry.1.schoolClass
    rw [facts]
    exact same
  · intro id given
    obtain ⟨teacher, hasTeacher, rfl⟩ := Option.map_eq_some_iff.1 given
    obtain ⟨candidate, listed, equal⟩ := inRange.teacher
    obtain rfl := Option.some.inj (hasTeacher.symm.trans equal)
    rw [traces.teachers] at listed
    obtain ⟨inCatalog, blocked, named, record, recorded, own, subject, taught⟩ :=
      mem_candidate_teachers listed
    rw [facts] at taught
    refine ⟨inCatalog, named, ⟨schoolClass, member, same, active, record, recorded, own, subject,
      taught⟩, ?_⟩
    intro availability known ofTeacher kind inTerm
    have notBlocked := ((faultless slot seated).1 teacher hasTeacher).1
    unfold Teacher.isBlockedAt at notBlocked
    rw [blocked] at notBlocked
    exact free_of_not_blocked notBlocked known ofTeacher kind inTerm
  · intro id used
    obtain ⟨room, hasRoom, rfl⟩ := Option.map_eq_some_iff.1 used
    have listed := inRange.room room hasRoom
    rw [traces.rooms] at listed
    obtain ⟨roomEntry, inCatalog, usable, sameRoom, capacity, suits⟩ := mem_suitable_rooms listed
    refine ⟨roomEntry, inCatalog, usable, sameRoom, suits, schoolClass, member, same, ?_⟩
    intro places students hasCapacity hasStudents
    have roomy := (faultless slot seated).2 room hasRoom
    rw [capacity] at hasCapacity
    have counted : lesson.schoolClass.studentCount = some students := by
      rw [facts]
      exact hasStudents
    simpa [roomIsTooSmall, hasCapacity, counted] using roomy

end Problem

open scoped Classical in
/-- Of the lessons of several requirements those that carry one prefix are those of one. -/
theorem filter_carrying {entries : List (Requirement × String)} (distinct : (entries.map (·.2)).Nodup)
    {lessonsOf : Requirement × String → List Lesson}
    (carried : ∀ entry ∈ entries, ∀ lesson ∈ lessonsOf entry, CarriesPrefix entry.2 lesson.id)
    {entry : Requirement × String} (listed : entry ∈ entries) :
    (entries.flatMap lessonsOf).filter (fun lesson => CarriesPrefix entry.2 lesson.id) =
      lessonsOf entry := by
  have whole : ∀ own ∈ entries, own.2 = entry.2 →
      (lessonsOf own).filter (fun lesson => CarriesPrefix entry.2 lesson.id) = lessonsOf own := by
    intro own member same
    rw [List.filter_eq_self]
    intro lesson inOwn
    exact decide_eq_true (same ▸ carried own member lesson inOwn)
  have empty : ∀ other ∈ entries, other.2 ≠ entry.2 →
      (lessonsOf other).filter (fun lesson => CarriesPrefix entry.2 lesson.id) = [] := by
    intro other member different
    rw [List.filter_eq_nil_iff]
    intro lesson inOther carries
    exact different (carries_unique (carried other member lesson inOther) (of_decide_eq_true carries))
  -- Prefixes are distinct, so lessons of other requirements, before or after, drop out.
  induction entries with
  | nil => cases listed
  | cons first rest ih =>
      obtain ⟨absent, restDistinct⟩ := List.nodup_cons.1 distinct
      rw [List.flatMap_cons, List.filter_append]
      rcases List.mem_cons.1 listed with rfl | later
      · have others : (rest.flatMap lessonsOf).filter
            (fun lesson => CarriesPrefix entry.2 lesson.id) = [] := by
          rw [List.filter_flatMap, List.flatMap_eq_nil_iff]
          intro other member
          apply empty other (List.mem_cons_of_mem _ member)
          intro same
          exact absent (List.mem_map.2 ⟨other, member, same⟩)
        rw [others, whole entry (List.mem_cons_self ..) rfl, List.append_nil]
      · have different : first.2 ≠ entry.2 := by
          intro same
          exact absent (List.mem_map.2 ⟨entry, later, same.symm⟩)
        rw [empty first (List.mem_cons_self ..) different, List.nil_append]
        exact ih restDistinct
          (fun other member => carried other (List.mem_cons_of_mem first member)) later
          (fun other member => whole other (List.mem_cons_of_mem first member))
          (fun other member => empty other (List.mem_cons_of_mem first member))

section Records

variable {lessons : List Lesson} {slots : List TimeSlot} {term : String}

theorem mem_records_of {record : LessonRecord} :
    record ∈ recordsOf term lessons ↔
      ∃ lesson ∈ lessons, ∃ slot, lesson.slot = some slot ∧ lesson.recordAt term slot = record := by
  unfold recordsOf LessonRecord.inOrder
  rw [(List.mergeSort_perm _ _).mem_iff, List.mem_filterMap]
  simp only [Option.map_eq_some_iff]

theorem record_ids_perm (inRange : ∀ lesson ∈ lessons, lesson.InRange slots) :
    ((recordsOf term lessons).map (·.lesson)).Perm (lessons.map (·.id)) := by
  have ids : (lessons.filterMap fun lesson => lesson.slot.map (lesson.recordAt term)).map (·.lesson) =
      lessons.map (·.id) := by
    induction lessons with
    | nil => rfl
    | cons lesson rest ih =>
        obtain ⟨slot, -, hasSlot⟩ := (inRange lesson (List.mem_cons_self ..)).slot
        have others := ih fun other member => inRange other (List.mem_cons_of_mem lesson member)
        rw [List.filterMap_cons, hasSlot]
        simp only [Option.map_some, List.map_cons, others]
        rfl
  rw [← ids]
  exact (List.mergeSort_perm _ _).map _

theorem LessonRecord.Apart.symm {first second : LessonRecord} (apart : first.Apart second) :
    second.Apart first := by
  intro same
  obtain ⟨schoolClass, teacher, room⟩ := apart same.symm
  refine ⟨fun equal => schoolClass equal.symm, ?_, ?_⟩
  · exact fun id left right => teacher id right left
  · exact fun id left right => room id right left

theorem apart_of_compatible {first second : Lesson} {slot other : TimeSlot}
    (compatible : first.Compatible second) (firstSlot : first.slot = some slot)
    (secondSlot : second.slot = some other) (identified : slot.id = other.id → slot = other)
    (overlaps : first.overlaps second = true) :
    (first.recordAt term slot).Apart (second.recordAt term other) := by
  intro sameSlot
  obtain rfl := identified sameSlot
  obtain ⟨teacherApart, roomApart, classApart⟩ :=
    compatible slot firstSlot slot secondSlot rfl rfl overlaps
  refine ⟨?_, ?_, ?_⟩
  · change first.schoolClass.id ≠ second.schoolClass.id
    simpa [sameClass] using classApart
  · intro id left right
    obtain ⟨leftTeacher, hasLeft, rfl⟩ := Option.map_eq_some_iff.1 left
    obtain ⟨rightTeacher, hasRight, same⟩ := Option.map_eq_some_iff.1 right
    simp [sameTeacher, hasLeft, hasRight, same] at teacherApart
  · intro id left right
    obtain ⟨leftRoom, hasLeft, rfl⟩ := Option.map_eq_some_iff.1 left
    obtain ⟨rightRoom, hasRight, same⟩ := Option.map_eq_some_iff.1 right
    simp [sameRoom, hasLeft, hasRight, same] at roomApart

/-- Records of compatible lessons in slots with ids of their own are apart in every week. -/
theorem records_apart (term : String) (inRange : ∀ lesson ∈ lessons, lesson.InRange slots)
    (identified : ∀ first ∈ slots, ∀ second ∈ slots, first.id = second.id → first = second)
    (compatible : lessons.Pairwise Lesson.Compatible) :
    (recordsOf term lessons).Pairwise fun first second =>
      first.pattern.overlaps second.pattern = true → first.Apart second := by
  have symmetric : ∀ {first second : LessonRecord},
      (first.pattern.overlaps second.pattern = true → first.Apart second) →
        second.pattern.overlaps first.pattern = true → second.Apart first := by
    intro first second apart overlaps
    rw [WeekPattern.overlaps_comm] at overlaps
    exact (apart overlaps).symm
  unfold recordsOf LessonRecord.inOrder
  rw [(List.mergeSort_perm _ _).pairwise_iff symmetric, List.pairwise_filterMap]
  apply compatible.imp_of_mem
  intro first second firstListed secondListed pair record recorded other otherRecorded
  obtain ⟨slot, firstSlot, rfl⟩ := Option.map_eq_some_iff.1 recorded
  obtain ⟨otherSlot, secondSlot, rfl⟩ := Option.map_eq_some_iff.1 otherRecorded
  obtain ⟨known, inSlots, sameFirst⟩ := (inRange first firstListed).slot
  obtain rfl := Option.some.inj (firstSlot.symm.trans sameFirst)
  obtain ⟨otherKnown, otherInSlots, sameSecond⟩ := (inRange second secondListed).slot
  obtain rfl := Option.some.inj (secondSlot.symm.trans sameSecond)
  exact apart_of_compatible pair firstSlot secondSlot
    (identified slot inSlots otherSlot otherInSlots)

end Records

namespace Problem

variable {problem : Problem} {config : Config} {timetable placed : Timetable}
  {warnings : List WorkloadWarning} {term : String}

/-- Every lesson of an arrangement of an assembled timetable is an hour of some requirement. -/
theorem traces_of_places_within (assembled : problem.assemble config = .ok (timetable, warnings))
    (within : placed.PlacesWithin timetable) {lesson : Lesson} (listed : lesson ∈ placed.lessons) :
    ∃ entry ∈ problem.prefixed, lesson.TracesTo problem entry := by
  obtain ⟨original, member, equal⟩ := within.original listed
  obtain ⟨entry, recorded, inEntry, serves⟩ := serves_of_mem_assembled assembled member
  have traces := serves.traces inEntry
  rw [← equal]
  exact ⟨entry, recorded, traces.carries, traces.schoolClass, traces.subject, traces.pattern,
    traces.teachers, traces.rooms⟩

open scoped Classical in
theorem carrying_records_length (valid : problem.Valid)
    (assembled : problem.assemble config = .ok (timetable, warnings))
    (within : placed.PlacesWithin timetable) {entry : Requirement × String}
    (listed : entry ∈ problem.prefixed) (required : problem.Requires entry.1) :
    (((recordsOf term placed.lessons).filter fun record =>
      CarriesPrefix entry.2 record.lesson).length : Int) = entry.1.weeklyHours := by
  have member : entry.1 ∈ problem.requirements := by
    rw [← problem.requirements_prefixed]
    exact List.mem_map_of_mem listed
  have ids : ((recordsOf term placed.lessons).map (·.lesson)).Perm (timetable.lessons.map (·.id)) := by
    have sameIds : placed.lessons.map (·.id) = timetable.lessons.map (·.id) := by
      have mapped := congrArg (List.map (·.id)) within.lessons
      rwa [List.map_map, List.map_map] at mapped
    rw [← sameIds]
    exact record_ids_perm within.inRange
  have counts : ((recordsOf term placed.lessons).filter fun record =>
      CarriesPrefix entry.2 record.lesson).length =
      (timetable.lessons.filter fun lesson => CarriesPrefix entry.2 lesson.id).length := by
    have counted := ids.countP_eq fun id => decide (CarriesPrefix entry.2 id)
    rw [List.countP_map, List.countP_map, List.countP_eq_length_filter,
      List.countP_eq_length_filter] at counted
    exact counted
  have carried : ∀ other ∈ problem.prefixed, ∀ lesson ∈ problem.lessonsFor config other,
      CarriesPrefix other.2 lesson.id := fun other recorded lesson inOther =>
    ((serves_lessons_for assembled recorded).traces inOther).carries
  have own := filter_carrying problem.prefixes_distinct carried listed
  have lessons : timetable.lessons = problem.prefixed.flatMap (problem.lessonsFor config) := by
    rw [(assemble_ok assembled).1]
    rfl
  rw [counts, lessons, own]
  exact (serves_lessons_for assembled listed).length valid member required

/-- Lessons in range that lose no hard point have records that fulfil the snapshot. -/
theorem fulfils_of_feasible (valid : problem.Valid)
    (assembled : problem.assemble config = .ok (timetable, warnings))
    (within : placed.PlacesWithin timetable)
    (feasible : (placed.fullScore config.weights).hard = 0) :
    problem.Fulfils (recordsOf term placed.lessons) := by
  obtain ⟨faultless, compatible⟩ := (full_score_hard config.weights placed.lessons).2.1 feasible
  have sameSlots : placed.slots = problem.buildSlots := by
    rw [within.slots, (assemble_ok assembled).1]
    rfl
  refine ⟨⟨problem.requirements_prefixed, problem.prefixes_distinct⟩, ?_, ?_, ?_, ?_, ?_⟩
  · intro entry listed required
    exact carrying_records_length valid assembled within listed required
  · intro record listed
    obtain ⟨lesson, member, slot, seated, rfl⟩ := mem_records_of.1 listed
    obtain ⟨entry, recorded, traces⟩ := traces_of_places_within assembled within member
    exact ⟨entry, recorded, requires_of_traces traces, traces.carries⟩
  · intro entry recorded record listed carries
    obtain ⟨lesson, member, slot, seated, rfl⟩ := mem_records_of.1 listed
    obtain ⟨own, ownRecorded, traces⟩ := traces_of_places_within assembled within member
    have samePrefix := carries_unique traces.carries carries
    obtain rfl := List.inj_on_of_nodup_map problem.prefixes_distinct ownRecorded recorded samePrefix
    exact answers_of_traces term traces (within.inRange lesson member) (faultless lesson member) seated
  · intro record listed
    obtain ⟨lesson, member, slot, seated, rfl⟩ := mem_records_of.1 listed
    obtain ⟨known, inSlots, same⟩ := (within.inRange lesson member).slot
    obtain rfl := Option.some.inj (seated.symm.trans same)
    rw [sameSlots] at inSlots
    obtain ⟨entry, recorded, working, rfl⟩ := mem_build_slots inSlots
    exact ⟨entry, recorded, working, rfl, rfl, rfl⟩
  · intro week listed
    have identified : ∀ first ∈ placed.slots, ∀ second ∈ placed.slots,
        first.id = second.id → first = second := by
      rw [sameSlots]
      exact fun first left second right => build_slots_id_injective valid left right
    have apart := records_apart term within.inRange identified compatible
    apply (apart.filter fun record => record.pattern = .every ∨ record.pattern = week).imp_of_mem
    intro first second firstListed secondListed pair
    apply pair
    have firstWeek := of_decide_eq_true (List.mem_filter.1 firstListed).2
    have secondWeek := of_decide_eq_true (List.mem_filter.1 secondListed).2
    rcases firstWeek with every | own
    · rw [every]
      rfl
    · rcases secondWeek with every | same
      · rw [every, WeekPattern.overlaps_comm]
        rfl
      · rw [own, same]
        unfold WeekPattern.overlaps
        simp

end Problem

namespace Solver

variable {Source : Type} [RandomSource Source]

/-- However a solve of an assembled timetable goes, if it ends without a hard point lost its records
fulfil the snapshot that the timetable was assembled from, and these are what its solution tells. There is
one unless a weight is immoderate. -/
theorem feasible_solutions_fulfil {document : Json} {problem : Problem} {config : Config}
    {timetable : Timetable} {warnings : List WorkloadWarning} {placer : ExactPlacer} {clock : Clock}
    {source : Source} {scores : List Score} {ended : Solver Source} {result : SolveResult}
    (accepted : Problem.read document = .ok problem)
    (assembled : problem.assemble config = .ok (timetable, warnings))
    (run : Run (ofTimetableWith placer timetable config clock source) scores ended)
    (terminated : ended.stage = .terminated result) (feasible : result.score.hard = 0) :
    ∃ records, result.Recorded config records ∧ problem.Fulfils records ∧
      (config.weights.Moderate → ∃ solution, result.solution config = .ok solution) := by
  obtain ⟨within, score, recorded⟩ := run.resolved assembled (.inl terminated)
  rw [← score] at feasible
  have fulfils : problem.Fulfils (recordsOf result.timetable.term result.timetable.lessons) :=
    Problem.fulfils_of_feasible (Problem.valid_of_read accepted) assembled within feasible
  refine ⟨_, recorded, fulfils, fun moderate => recorded.document.2 (within.writable moderate ?_)⟩
  intro slot listed
  rw [(Problem.assemble_ok assembled).1] at listed
  obtain ⟨entry, known, -, rfl⟩ := Problem.mem_build_slots listed
  obtain ⟨entries, fields⟩ := Problem.fields_of_read accepted
  exact (Problem.grid_of_form fields known).period

end Solver

namespace MusicMorning

open Solver

theorem document_read : Problem.read problem.write = .ok problem := by decide +kernel

/-- Four hours in two weeks, of which two are in one slot in turns, after moves that were made and taken back. -/
theorem week_is_fulfilled : ∃ warnings scores result, Problem.read problem.write = .ok problem ∧
    problem.assemble config = .ok (timetable, warnings) ∧
    Run (start config) scores ((start config).after toEnd) ∧
    ((start config).after toEnd).stage = .terminated result ∧ result.accepted = 2 ∧ result.score.hard = 0 ∧
    ∃ records solution, result.Recorded config records ∧ result.solution config = .ok solution ∧
      problem.Fulfils records ∧ solution.lessons = records := by
  obtain ⟨warnings, assembled⟩ := config_assembles
  obtain ⟨scores, run⟩ := run_after config toEnd
  obtain ⟨result, -, terminated, score, -, accepted⟩ := solves
  have feasible : result.score.hard = 0 := by rw [score]
  obtain ⟨records, recorded, fulfils, documented⟩ :=
    feasible_solutions_fulfil document_read assembled run terminated feasible
  obtain ⟨solution, extracted⟩ := documented Weights.standard_moderate
  exact ⟨warnings, scores, result, document_read, assembled, run, terminated, accepted, feasible, records, solution,
    recorded, extracted, fulfils, recorded.tells solution extracted⟩

end MusicMorning

end SchoolTimetable
