import SchoolTimetable.Proofs.Sample.Coverage
import SchoolTimetable.Proofs.Sample.Hours
import SchoolTimetable.Proofs.Timetable.Assembling
import SchoolTimetable.Random.Script

/-!
Sample schools can be scheduled. Whatever is drawn, a school that is made has classes within their limit and
teachers enough for every subject, so where the limit fits into the week and there is a classroom it is
assembled with one lesson for every required hour.
-/

namespace SchoolTimetable.Sample

open Problem

variable {Source : Type} {settings : Settings} {school : Problem}

section Classes

variable {staff : List TeacherEntry} {skills : List Qualification} {groups : List ClassEntry}

theorem class_teachers_only (staff : List TeacherEntry) (skills : List Qualification)
    (groups : List ClassEntry) :
    (withClassTeachers staff skills groups).map (fun entry => { entry with classTeacher := none }) =
      groups.map fun entry => { entry with classTeacher := none } := by
  unfold withClassTeachers
  dsimp only
  split
  · rfl
  · apply List.ext_getElem?
    intro index
    rw [List.getElem?_map, List.getElem?_mapIdx, List.getElem?_map, Option.map_map]
    rfl

end Classes

structure MadeOf (settings : Settings) (taught : List StockSubject) (groups : List ClassEntry)
    (drawn : Assignment) (share : Int) (school : Problem) : Prop where
  accepted : Problem.read school.write = .ok school
  grid : (teachingSlots school.slots).length = settings.days.toNat * settings.periods.toNat
  days : school.slots ≠ [] → 0 < settings.days
  known : taught ⊆ stock
  subjects : school.subjects = taught.map (·.entry)
  staff : school.teachers.length = settings.teachers.toNat ∧ ∀ teacher ∈ school.teachers, teacher.active = true
  given : ∀ entry ∈ groups, entry.active = true ∧ entry.grade ∈ settings.grades
  classes : school.classes.map (fun entry => { entry with classTeacher := none }) =
    groups.map fun entry => { entry with classTeacher := none }
  hours : school.requirements = requirements settings groups taught
  assigned : drawn.map (·.1) = school.teachers.map (·.id)
  skills : school.qualifications = qualificationsOf settings.grades
    (coverAll (fun subject => ceilQuotient (demandFor school.requirements subject) share) (taught.map (·.id))
      drawn)
  rooms : 1 ≤ settings.classrooms → ∃ room ∈ school.rooms, room.active = true ∧ room.suitableSubjects = []

theorem made_of_given [RandomSource Source] {trials : Nat}
    (given : Gives (problemWithin trials settings : Sampling Source Problem) school) :
    ∃ taught groups drawn share, Gives (hoursPerTeacher settings : Sampling Source Int) share ∧
      MadeOf settings taught groups drawn share school := by
  obtain ⟨taught, groups, steps⟩ := steps_of_given given
  obtain ⟨drawn, drawnGiven, skillsGiven⟩ := gives_bind steps.skillsGiven
  obtain ⟨share, shareGiven, skillsGiven⟩ := gives_bind skillsGiven
  obtain ⟨teaching, days, -⟩ := gives_slots steps.slotsGiven
  refine ⟨taught, groups, drawn, share, shareGiven, ?_⟩
  exact
    { accepted := steps.accepted
      grid := teaching
      days := days
      known := gives_subjects steps.taughtGiven
      subjects := steps.subjects
      staff := gives_teachers steps.staffGiven
      given := gives_classes steps.groupsGiven
      classes := by
        rw [steps.classes]
        split
        · exact class_teachers_only school.teachers school.qualifications groups
        · rfl
      hours := steps.hours
      assigned := gives_draw_subjects drawnGiven
      skills := gives_pure skillsGiven
      rooms := gives_rooms steps.roomsGiven }

namespace MadeOf

variable {taught : List StockSubject} {groups : List ClassEntry} {drawn : Assignment} {share : Int}
  (made : MadeOf settings taught groups drawn share school)

include made

theorem valid : school.Valid :=
  valid_of_read made.accepted

theorem class_ids : school.classes.map (·.id) = groups.map (·.id) := by
  have same := congrArg (List.map (·.id)) made.classes
  rw [List.map_map, List.map_map] at same
  exact same

theorem group_of_class {entry : ClassEntry} (listed : entry ∈ school.classes) :
    entry.active = true ∧ entry.grade ∈ settings.grades ∧ ∃ group ∈ groups, group.id = entry.id := by
  have mapped : { entry with classTeacher := none } ∈
      school.classes.map fun entry => { entry with classTeacher := none } := List.mem_map_of_mem listed
  rw [made.classes] at mapped
  obtain ⟨group, member, same⟩ := List.mem_map.1 mapped
  obtain ⟨active, graded⟩ := made.given group member
  obtain ⟨sameId, -, sameGrade, -, -, sameActive⟩ := ClassEntry.mk.inj same
  exact ⟨sameActive ▸ active, sameGrade ▸ graded, group, member, sameId⟩

theorem taught_ids : school.subjects.map (·.id) = taught.map (·.id) := by
  rw [made.subjects, List.map_map]
  rfl

theorem taught_distinct : (taught.map (·.id)).Nodup := by
  rw [← made.taught_ids]
  exact made.valid.subject_ids_nodup

theorem within_limit
    (some : school.requirements ≠ []) {entry : ClassEntry} (listed : entry ∈ school.classes) :
    slotsNeeded (school.requirements.filter (·.schoolClass = entry.id)) ≤ settings.classHours := by
  obtain ⟨-, -, group, member, sameId⟩ := made.group_of_class listed
  have distinct : (groups.map (·.id)).Nodup := by
    rw [← made.class_ids]
    exact made.valid.class_ids_nodup
  rw [made.hours] at some ⊢
  rw [← sameId]
  exact requirements_within_limit made.known made.taught_distinct distinct some member

theorem grades_listed : ∀ record ∈ school.qualifications, record.grades = some settings.grades := by
  rw [made.skills]
  exact grades_of_qualifications

theorem taught_of_demand {subject : String}
    (demand : 0 < demandFor school.requirements subject) : subject ∈ taught.map (·.id) := by
  have some : school.requirements.filter (·.subject = subject) ≠ [] := by
    intro none
    unfold demandFor at demand
    rw [none] at demand
    exact absurd demand (by decide)
  obtain ⟨requirement, member⟩ := List.exists_mem_of_ne_nil _ some
  obtain ⟨listed, own⟩ := List.mem_filter.1 member
  obtain rfl := of_decide_eq_true own
  rw [← made.taught_ids]
  exact (made.valid.requirement_known listed).2

/-- A subject with demand has as many teachers as it needs, or all of them. -/
theorem covered (positive : 1 ≤ share)
    {subject : String} (demand : 0 < demandFor school.requirements subject) :
    min settings.teachers (max 1 ⌈(demandFor school.requirements subject : ℚ) / share⌉) ≤
      ((withRecord school.qualifications subject school.teachers).length : Int) := by
  have reached := needed_le_qualified_cover_all
    (fun subject => ceilQuotient (demandFor school.requirements subject) share) drawn
    (made.taught_of_demand demand)
  have staffed := (cover_all_teachers
    (fun subject => ceilQuotient (demandFor school.requirements subject) share) (taught.map (·.id))
    drawn).trans made.assigned
  have counted : qualifiedCount subject (coverAll _ (taught.map (·.id)) drawn) ≤
      (withRecord school.qualifications subject school.teachers).length :=
    made.skills ▸ qualified_count_le_with_record staffed
  have everyone : drawn.length = settings.teachers.toNat := by
    have lengths := congrArg List.length made.assigned
    rw [List.length_map, List.length_map, made.staff.1] at lengths
    exact lengths
  have needed : 1 ≤ ⌈(demandFor school.requirements subject : ℚ) / share⌉ := by
    rw [Int.one_le_ceil_iff]
    have demandPositive : (0 : ℚ) < demandFor school.requirements subject := Int.cast_pos.2 demand
    have sharePositive : (0 : ℚ) < share := Int.cast_pos.2 (by omega)
    exact div_pos demandPositive sharePositive
  rw [ceil_quotient_eq positive] at reached
  omega

theorem slots_and_staff : school.slots ≠ [] ∧ school.teachers ≠ [] := by
  obtain ⟨entries, fields⟩ := fields_of_read made.accepted
  exact some_of_form fields

theorem no_overfull_classes
    (fits : settings.classHours ≤ settings.days * settings.periods) (some : school.requirements ≠ []) :
    school.overfullClasses = [] := by
  apply Problem.no_overfull_classes
  intro entry listed _
  have within := made.within_limit some listed
  have days := made.days made.slots_and_staff.1
  change _ ≤ ((teachingSlots school.slots).length : Int)
  rw [made.grid, Nat.cast_mul, Int.toNat_of_nonneg days.le]
  have teaching : settings.days * settings.periods ≤ settings.days * (settings.periods.toNat : Int) :=
    Int.mul_le_mul_of_nonneg_left (Int.self_le_toNat _) days.le
  omega

theorem demand_of_requirement {requirement : Requirement} (listed : requirement ∈ school.requirements) :
    0 < demandFor school.requirements requirement.subject := by
  have own : requirement ∈ school.requirements.filter (·.subject = requirement.subject) :=
    List.mem_filter.2 ⟨listed, decide_eq_true rfl⟩
  exact Requirement.total_hours_pos (fun other among => made.valid.hours other (List.mem_filter.1 among).1)
    (List.ne_nil_of_mem own)

theorem candidates (positive : 1 ≤ share)
    {requirement : Requirement} (listed : requirement ∈ school.requirements) {grade : Int}
    (graded : grade ∈ settings.grades) :
    school.candidateTeachers school.buildTeachers requirement grade ≠ [] := by
  have unnamed : requirement.candidates = [] := by
    have given := listed
    rw [made.hours, requirements_eq] at given
    obtain ⟨group, -, given⟩ := List.mem_flatMap.1 given
    obtain ⟨subject, -, rfl⟩ := mem_class_hours given
    rfl
  have staffed : 1 ≤ settings.teachers := by
    have some := List.length_pos_iff.2 made.slots_and_staff.2
    rw [made.staff.1] at some
    omega
  have covered := made.covered positive (made.demand_of_requirement listed)
  have some : withRecord school.qualifications requirement.subject school.teachers ≠ [] := by
    rw [← List.length_pos_iff]
    omega
  obtain ⟨teacher, holder⟩ := List.exists_mem_of_ne_nil _ some
  obtain ⟨member, recorded⟩ := List.mem_filter.1 holder
  obtain ⟨record, inRecords, own⟩ := List.any_eq_true.1 recorded
  rw [Bool.and_eq_true, beq_iff_eq, beq_iff_eq] at own
  exact candidates_of_record unnamed member (made.staff.2 teacher member) inRecords own.1 own.2
    made.grades_listed graded

theorem can_serve (positive : 1 ≤ share) (roomy : 1 ≤ settings.classrooms) {requirement : Requirement}
    (listed : requirement ∈ school.requirements) : school.CanServe requirement := by
  obtain ⟨classKnown, -⟩ := made.valid.requirement_known listed
  obtain ⟨entry, inClasses, sameClass⟩ := List.mem_map.1 classKnown
  obtain ⟨active, -, -⟩ := made.group_of_class inClasses
  constructor
  · have notNone := find_class_of_active inClasses active
    rw [sameClass] at notNone
    obtain ⟨schoolClass, found⟩ := Option.ne_none_iff_exists'.1 notNone
    obtain ⟨other, otherListed, -, -, rfl⟩ := class_of_find found
    obtain ⟨-, graded, -⟩ := made.group_of_class otherListed
    exact ⟨_, found, made.candidates positive listed graded⟩
  · obtain ⟨subject, found⟩ := Option.ne_none_iff_exists'.1 (find_subject_of_valid made.valid listed)
    obtain ⟨room, inRooms, isActive, suitsAll⟩ := made.rooms roomy
    refine ⟨subject, found, ?_⟩
    have built : ∃ built ∈ school.buildRooms, built.suitableSubjects = room.suitableSubjects :=
      ⟨_, List.mem_map_of_mem (List.mem_filter.2 ⟨inRooms, isActive⟩), rfl⟩
    obtain ⟨built, inCatalog, same⟩ := built
    have suits : built.suits subject.id = true := by
      unfold Room.suits
      rw [same, suitsAll]
      rfl
    exact List.ne_nil_of_mem (List.mem_filter.2 ⟨inCatalog, suits⟩)

end MadeOf

/-- A sample school keeps its classes within their limit and has teachers for every demand, so it can be
assembled, however long names were drawn for. The hours planned for one teacher are those that the settings
give, whatever is drawn. -/
theorem sample_schools_assemble [RandomSource Source] {source rest : Source} {trials : Nat}
    (drawn : (problemWithin trials settings).run source = .ok school rest) (roomy : 1 ≤ settings.classrooms)
    (fits : settings.classHours ≤ settings.days * settings.periods)
    (required : school.requirements ≠ []) :
    (∀ entry ∈ school.classes,
      let own := school.requirements.filter (·.schoolClass = entry.id)
      hoursOf own .every + max (hoursOf own .a) (hoursOf own .b) ≤ settings.classHours) ∧
    (∃ share, 1 ≤ share ∧ (hoursPerTeacher settings : Sampling Source Int) = pure share ∧
      ∀ subject, 0 < demandFor school.requirements subject →
        min settings.teachers (max 1 ⌈(demandFor school.requirements subject : ℚ) / share⌉) ≤
          ((school.teachers.filter fun teacher => school.qualifications.any fun record =>
            record.teacher == teacher.id && record.subject == subject).length : Int)) ∧
    (∀ record ∈ school.qualifications, record.grades = some settings.grades) ∧
    ∀ config, ∃ timetable warnings, school.assemble config = .ok (timetable, warnings) ∧
      (timetable.lessons.length : Int) = school.totalHours := by
  obtain ⟨taught, groups, assignment, share, shareGiven, made⟩ := made_of_given ⟨source, rest, drawn⟩
  obtain ⟨positive, planned⟩ := hours_per_teacher_given shareGiven
  refine ⟨fun entry listed => made.within_limit required listed, ⟨share, positive, planned, ?_⟩,
    made.grades_listed, ?_⟩
  · intro subject demand
    exact made.covered positive demand
  · intro config
    exact assembles config required (made.no_overfull_classes fits required) made.valid.hours
      fun requirement listed => made.can_serve positive roomy listed

/-- A class with one day of five periods, one of which an A subject and a B subject share. -/
def fiveHours : Settings :=
  { Settings.small with
    teachers := 1
    classes := 1
    classrooms := 1
    classHours := 5
    leastSubjects := 1
    greatestSubjects := 1
    greatestBlocked := 0
    greatestPreferred := 0
    grades := [5]
    days := 1
    periods := 5
    specialSubjects := 2 }

/-- Draws that choose art and music as the special subjects, and else always the first. -/
def fiveHoursDraws : Script := .ofEntries ([1, 2] ++ List.replicate 12 0)

set_option maxRecDepth 10000 in
theorem five_hours_drawn : ∃ school rest,
    (problemWithin nameTrials fiveHours).run fiveHoursDraws = .ok school rest ∧
    school.requirements ≠ [] ∧ school.totalHours = 6 := by
  have checked : (match (problemWithin nameTrials fiveHours).run fiveHoursDraws with
      | .ok school _ => decide (school.requirements ≠ [] ∧ school.totalHours = 6)
      | .error _ _ => false) = true := by decide +kernel
  split at checked
  · rename_i school rest drawn
    exact ⟨school, rest, drawn, of_decide_eq_true checked⟩
  · cases checked

theorem five_hours_assemble : ∃ school rest,
    (problemWithin nameTrials fiveHours).run fiveHoursDraws = .ok school rest ∧
    1 ≤ fiveHours.classrooms ∧ fiveHours.classHours ≤ fiveHours.days * fiveHours.periods ∧
    school.requirements ≠ [] ∧ ∃ timetable warnings,
      school.assemble .standard = .ok (timetable, warnings) ∧ timetable.lessons.length = 6 := by
  obtain ⟨school, rest, drawn, required, six⟩ := five_hours_drawn
  have roomy : 1 ≤ fiveHours.classrooms := by decide
  have fits : fiveHours.classHours ≤ fiveHours.days * fiveHours.periods := by decide
  obtain ⟨-, -, -, assembled⟩ := sample_schools_assemble drawn roomy fits required
  obtain ⟨timetable, warnings, done, lessons⟩ := assembled .standard
  refine ⟨school, rest, drawn, roomy, fits, required, timetable, warnings, done, ?_⟩
  rw [six] at lessons
  exact_mod_cast lessons

end SchoolTimetable.Sample
