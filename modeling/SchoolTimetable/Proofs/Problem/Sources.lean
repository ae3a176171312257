import SchoolTimetable.Proofs.Problem.Qualifications
import SchoolTimetable.Proofs.Problem.Validity

/-!
Where the facts of a timetable come from. Every slot, class, teacher and room that lessons refer to is
an entry of the snapshot that can be used, and what is known of it is what the records of the snapshot
say.
-/

namespace SchoolTimetable

namespace Problem

variable {problem : Problem}

theorem mem_build_slots {slot : TimeSlot} (listed : slot ∈ problem.buildSlots) :
    ∃ entry ∈ problem.slots, entry.isBreak = false ∧
      slot = ⟨entry.id, entry.day, entry.period, entry.start, entry.finish⟩ := by
  obtain ⟨entry, assignable, rfl⟩ := List.mem_map.1 listed
  obtain ⟨member, working⟩ := List.mem_filter.1 ((List.mergeSort_perm _ _).mem_iff.1 assignable)
  exact ⟨entry, member, by simpa using working, rfl⟩

theorem build_slots_id_injective (valid : problem.Valid) {first second : TimeSlot}
    (left : first ∈ problem.buildSlots) (right : second ∈ problem.buildSlots)
    (same : first.id = second.id) : first = second := by
  obtain ⟨entry, member, -, rfl⟩ := mem_build_slots left
  obtain ⟨other, otherMember, -, rfl⟩ := mem_build_slots right
  obtain rfl := List.inj_on_of_nodup_map valid.slot_ids_nodup member otherMember same
  rfl

theorem build_slots_nodup (valid : problem.Valid) : (problem.buildSlots.map (·.id)).Nodup := by
  have same : problem.buildSlots.map (·.id) = problem.assignableSlots.map (·.id) := by
    unfold buildSlots
    rw [List.map_map]
    rfl
  have sorted : (problem.assignableSlots.map (·.id)).Perm
      ((problem.slots.filter (!·.isBreak)).map (·.id)) := (List.mergeSort_perm _ _).map _
  rw [same, sorted.nodup_iff]
  exact valid.slot_ids_nodup.sublist (List.filter_sublist.map _)

theorem class_of_find {id : String} {schoolClass : SchoolClass}
    (found : problem.buildClasses.find? (·.id == id) = some schoolClass) :
    ∃ entry ∈ problem.classes, entry.active = true ∧ entry.id = id ∧
      schoolClass = ⟨entry.id, entry.name, entry.grade, entry.studentCount, entry.classTeacher⟩ := by
  obtain ⟨entry, kept, rfl⟩ := List.mem_map.1 (List.mem_of_find?_eq_some found)
  obtain ⟨member, active⟩ := List.mem_filter.1 kept
  exact ⟨entry, member, active, by simpa using List.find?_some found, rfl⟩

theorem find_class_of_active {entry : ClassEntry} (listed : entry ∈ problem.classes)
    (active : entry.active = true) : problem.buildClasses.find? (·.id == entry.id) ≠ none := by
  intro missing
  have kept : entry ∈ problem.classes.filter (·.active) := List.mem_filter.2 ⟨listed, active⟩
  have absent := List.find?_eq_none.1 missing _ (List.mem_map_of_mem kept)
  simp at absent

theorem find_of_distinct {Member : Type} {id : Member → String} {members : List Member}
    (distinct : (members.map id).Nodup) {member : Member} (listed : member ∈ members) :
    members.find? (id · == id member) = some member := by
  cases found : members.find? (id · == id member) with
  | none =>
      have absent := List.find?_eq_none.1 found member listed
      simp at absent
  | some first =>
      have sameId : id first = id member := by simpa using List.find?_some found
      exact congrArg some (List.inj_on_of_nodup_map distinct (List.mem_of_find?_eq_some found) listed sameId)

theorem find_active_class (valid : problem.Valid) {schoolClass : SchoolClass}
    (active : schoolClass ∈ problem.buildClasses) :
    problem.buildClasses.find? (·.id == schoolClass.id) = some schoolClass := by
  have distinct : (problem.buildClasses.map (·.id)).Nodup := by
    unfold buildClasses
    rw [List.map_map]
    exact valid.class_ids_nodup.sublist (List.filter_sublist.map _)
  exact find_of_distinct distinct active

theorem find_subject_of_valid (valid : problem.Valid) {requirement : Requirement}
    (listed : requirement ∈ problem.requirements) :
    problem.buildSubjects.find? (·.id == requirement.subject) ≠ none := by
  intro missing
  obtain ⟨entry, member, same⟩ := List.mem_map.1 (valid.requirement_known listed).2
  have absent := List.find?_eq_none.1 missing _ (List.mem_map_of_mem member)
  simp [same] at absent

/-- A slot at which a teacher of the snapshot is not blocked has no record of the term against it. -/
theorem free_of_not_blocked {teacher : String} {slot : TimeSlot} {record : Availability}
    (notBlocked : (problem.availabilityKeys teacher .blocked).contains slot.key = false)
    (listed : record ∈ problem.availabilities) (own : record.teacher = teacher)
    (blocked : record.kind = .blocked) (inTerm : record.term = none ∨ record.term = some problem.term) :
    ¬ (record.day = slot.day ∧ record.period = slot.period) := by
  rintro ⟨sameDay, samePeriod⟩
  have kept : record ∈ problem.availabilities.filter fun record =>
      record.teacher == teacher && record.kind == .blocked &&
        (record.term.isNone || record.term == some problem.term) := by
    rw [List.mem_filter]
    rcases inTerm with always | now
    · simp [listed, own, blocked, always]
    · simp [listed, own, blocked, now]
  have key : slot.key ∈ problem.availabilityKeys teacher .blocked := by
    have sameKey : record.key = slot.key := by
      unfold Availability.key TimeSlot.key
      rw [sameDay, samePeriod]
    rw [← sameKey]
    exact List.mem_map_of_mem kept
  simp [key] at notBlocked

theorem entry_of_built {teacher : Teacher} (built : teacher ∈ problem.buildTeachers) :
    ∃ entry ∈ problem.teachers, entry.active = true ∧ entry.id = teacher.id := by
  obtain ⟨entry, kept, rfl⟩ := List.mem_map.1 built
  obtain ⟨listed, active⟩ := List.mem_filter.1 kept
  exact ⟨entry, listed, active, rfl⟩

theorem built_of_entry {entry : TeacherEntry} (listed : entry ∈ problem.teachers)
    (active : entry.active = true) : ∃ teacher ∈ problem.buildTeachers, teacher.id = entry.id :=
  ⟨_, List.mem_map_of_mem (List.mem_filter.2 ⟨listed, active⟩), rfl⟩

/-- A requirement that names nobody has a candidate wherever an active teacher has a record for it. -/
theorem candidates_of_record {requirement : Requirement} {grades : List Int} {grade : Int}
    (unnamed : requirement.candidates = []) {teacher : TeacherEntry} (member : teacher ∈ problem.teachers)
    (active : teacher.active = true) {record : Qualification} (listed : record ∈ problem.qualifications)
    (own : record.teacher = teacher.id) (ownSubject : record.subject = requirement.subject)
    (uniform : ∀ other ∈ problem.qualifications, other.grades = some grades) (taught : grade ∈ grades) :
    problem.candidateTeachers problem.buildTeachers requirement grade ≠ [] := by
  obtain ⟨built, inCatalog, same⟩ := built_of_entry member active
  obtain ⟨last, isLast⟩ := exists_last_record listed ⟨own, ownSubject⟩
  have qualified : built.isQualifiedFor requirement.subject grade = true :=
    (qualified_iff_last inCatalog _ _).2 ⟨last, same ▸ isLast, grades, uniform last isLast.mem, taught⟩
  have candidate : built ∈ problem.candidateTeachers problem.buildTeachers requirement grade := by
    apply (List.mergeSort_perm _ _).mem_iff.2
    apply List.mem_filter.2
    unfold allowedTeachers
    rw [unnamed]
    exact ⟨inCatalog, qualified⟩
  exact List.ne_nil_of_mem candidate

/-- A teacher who can give the lessons of a requirement at a grade. -/
structure CanGive (problem : Problem) (requirement : Requirement) (grade : Int) (teacher : Teacher) :
    Prop where
  active : teacher ∈ problem.buildTeachers
  allowed : requirement.candidates = [] ∨ teacher.id ∈ requirement.candidates
  qualified : teacher.isQualifiedFor requirement.subject grade = true

theorem can_give_of_candidate {requirement : Requirement} {grade : Int} {teacher : Teacher}
    (listed : teacher ∈ problem.candidateTeachers problem.buildTeachers requirement grade) :
    problem.CanGive requirement grade teacher := by
  obtain ⟨allowed, qualified⟩ := List.mem_filter.1 ((List.mergeSort_perm _ _).mem_iff.1 listed)
  unfold allowedTeachers at allowed
  split at allowed
  · rename_i anyone
    exact ⟨allowed, .inl (by simpa using anyone), qualified⟩
  · obtain ⟨id, named, found⟩ := List.mem_filterMap.1 allowed
    have same : teacher.id = id := by simpa using List.find?_some found
    exact ⟨List.mem_of_find?_eq_some found, .inr (same ▸ named), qualified⟩

/-- A candidate for a requirement is an active teacher whom the requirement allows and whose
qualification for the subject lists the grade. -/
theorem mem_candidate_teachers {requirement : Requirement} {grade : Int} {teacher : Teacher}
    (listed : teacher ∈ problem.candidateTeachers problem.buildTeachers requirement grade) :
    (∃ entry ∈ problem.teachers, entry.active = true ∧ entry.id = teacher.id) ∧
      teacher.blocked = problem.availabilityKeys teacher.id .blocked ∧
      (requirement.candidates ≠ [] → teacher.id ∈ requirement.candidates) ∧
      ∃ record ∈ problem.qualifications, record.teacher = teacher.id ∧
        record.subject = requirement.subject ∧
        ∃ grades, record.grades = some grades ∧ grade ∈ grades := by
  have canGive := can_give_of_candidate listed
  obtain ⟨record, last, lists⟩ := (qualified_iff_last canGive.active _ _).1 canGive.qualified
  obtain ⟨entry, kept, rfl⟩ := List.mem_map.1 canGive.active
  obtain ⟨member, active⟩ := List.mem_filter.1 kept
  exact ⟨⟨entry, member, active, rfl⟩, rfl, canGive.allowed.resolve_left, record, last.mem, last.own.1,
    last.own.2, lists⟩

theorem mem_suitable_rooms {subject : String} {room : Room}
    (listed : room ∈ problem.buildRooms.filter fun room => room.suits subject) :
    ∃ entry ∈ problem.rooms, entry.active = true ∧ entry.id = room.id ∧
      entry.capacity = room.capacity ∧
      (entry.suitableSubjects = [] ∨ subject ∈ entry.suitableSubjects) := by
  obtain ⟨built, suits⟩ := List.mem_filter.1 listed
  obtain ⟨entry, kept, rfl⟩ := List.mem_map.1 built
  obtain ⟨member, active⟩ := List.mem_filter.1 kept
  exact ⟨entry, member, active, rfl, rfl, by simpa [Room.suits] using suits⟩

end Problem

end SchoolTimetable
