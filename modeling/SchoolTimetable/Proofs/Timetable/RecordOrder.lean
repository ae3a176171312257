import SchoolTimetable.Proofs.Timetable.Shortfalls

/-!
What the order of qualification records does. The last record on a teacher and a subject overrules the others,
so whether a grade is taught may depend on the order. It does not exactly where records on one teacher and subject
list the same grades: then no record is lost, and neither who is qualified nor whether a snapshot is assembled
depends on the order.
-/

namespace SchoolTimetable

namespace Problem

variable {problem : Problem} {records : List Qualification}

/-- Some record lists a grade for a teacher in a subject. -/
def Recorded (problem : Problem) (teacher subject : String) (grade : Int) : Prop :=
  ∃ record ∈ problem.qualifications, record.IsOn teacher subject ∧ record.Lists grade

/-- Active teachers are qualified for exactly what their records list. -/
def KeepsRecords (problem : Problem) : Prop :=
  ∀ teacher ∈ problem.buildTeachers, ∀ subject grade,
    teacher.isQualifiedFor subject grade = true ↔ problem.Recorded teacher.id subject grade

/-- Records on one active teacher and one subject list the same grades. -/
def RecordsAgree (problem : Problem) : Prop :=
  ∀ entry ∈ problem.teachers, entry.active = true → ∀ subject, ∀ record ∈ problem.qualifications,
    ∀ other ∈ problem.qualifications, record.IsOn entry.id subject → other.IsOn entry.id subject →
      ∀ grade, record.Lists grade → other.Lists grade

theorem records_agree_iff : problem.RecordsAgree ↔
    ∀ entry ∈ problem.teachers, entry.active = true → ∀ record ∈ problem.qualifications,
      ∀ other ∈ problem.qualifications, record.teacher = entry.id → other.teacher = entry.id →
        record.subject = other.subject → ∀ grade ∈ record.grades.getD [], grade ∈ other.grades.getD [] := by
  constructor
  · intro agree entry listed active record recorded other otherRecorded own otherOwn same grade
    have kept := agree entry listed active other.subject record recorded other otherRecorded ⟨own, same⟩
      ⟨otherOwn, rfl⟩ grade
    rwa [Qualification.lists_iff, Qualification.lists_iff] at kept
  · rintro agree entry listed active subject record recorded other otherRecorded ⟨own, rfl⟩
      ⟨otherOwn, otherSubject⟩ grade
    rw [Qualification.lists_iff, Qualification.lists_iff]
    exact agree entry listed active record recorded other otherRecorded own otherOwn otherSubject.symm grade

instance : Decidable problem.RecordsAgree := decidable_of_iff _ records_agree_iff.symm

/-- The snapshot with other qualification records. -/
def recording (problem : Problem) (records : List Qualification) : Problem :=
  { problem with qualifications := records }

theorem recorded_of_perm (same : records.Perm problem.qualifications) {teacher subject : String}
    {grade : Int} : (problem.recording records).Recorded teacher subject grade ↔
      problem.Recorded teacher subject grade :=
  exists_congr fun _ => and_congr_left fun _ => same.mem_iff

theorem RecordsAgree.keeps (agree : problem.RecordsAgree) (same : records.Perm problem.qualifications) :
    (problem.recording records).KeepsRecords := by
  intro teacher built subject grade
  obtain ⟨entry, listed, active, own⟩ := entry_of_built built
  rw [qualified_iff_last built]
  constructor
  · rintro ⟨last, isLast, lists⟩
    exact ⟨last, isLast.mem, isLast.own, lists⟩
  · rintro ⟨record, recorded, isOn, lists⟩
    obtain ⟨last, isLast⟩ := exists_last_record recorded isOn
    refine ⟨last, isLast, ?_⟩
    exact agree entry listed active subject record (same.mem_iff.1 recorded) last
      (same.mem_iff.1 isLast.mem) (own ▸ isOn) (own ▸ isLast.own) grade lists

/-- If no order loses a record then records agree, as each can be made the last. -/
theorem agree_of_kept
    (kept : ∀ records, records.Perm problem.qualifications → (problem.recording records).KeepsRecords) :
    problem.RecordsAgree := by
  intro entry listed active subject record recorded other otherRecorded isOn otherIsOn grade lists
  let before := problem.qualifications.erase other
  have same : (before ++ [other]).Perm problem.qualifications :=
    (List.perm_append_singleton other before).trans (List.perm_cons_erase otherRecorded).symm
  obtain ⟨teacher, built, own⟩ : ∃ teacher ∈ (problem.recording (before ++ [other])).buildTeachers,
      teacher.id = entry.id := built_of_entry listed active
  have qualified := (kept _ same teacher built subject grade).2
    ⟨record, same.mem_iff.2 recorded, own ▸ isOn, lists⟩
  obtain ⟨last, isLast, lastLists⟩ := (qualified_iff_last built subject grade).1 qualified
  have otherLast : (problem.recording (before ++ [other])).LastRecord teacher.id subject other :=
    ⟨own ▸ otherIsOn, before, [], rfl, fun _ later => (nomatch later)⟩
  rwa [isLast.unique otherLast] at lastLists

theorem Valid.recording (valid : problem.Valid) (same : records.Perm problem.qualifications) :
    (problem.recording records).Valid where
  unrepeated := valid.unrepeated
  known := by
    have known := valid.known
    unfold referenceFaults at known ⊢
    simp only [List.append_eq_nil_iff, List.flatMap_eq_nil_iff] at known ⊢
    obtain ⟨⟨⟨⟨requirements, qualifications⟩, availabilities⟩, rooms⟩, classes⟩ := known
    exact ⟨⟨⟨⟨requirements, fun record recorded => qualifications record (same.mem_iff.1 recorded)⟩,
      availabilities⟩, rooms⟩, classes⟩
  hours := valid.hours

/-- Whether somebody can give lessons is up to the active teachers and the records. -/
theorem KeepsRecords.someone_iff (keeps : problem.KeepsRecords) {requirement : Requirement} {grade : Int} :
    (∃ teacher, problem.CanGive requirement grade teacher) ↔
      ∃ id ∈ (problem.teachers.filter (·.active)).map (·.id),
        (requirement.candidates = [] ∨ id ∈ requirement.candidates) ∧
          problem.Recorded id requirement.subject grade := by
  rw [← build_teachers_ids]
  constructor
  · rintro ⟨teacher, active, allowed, qualified⟩
    exact ⟨teacher.id, List.mem_map_of_mem active, allowed, (keeps teacher active _ _).1 qualified⟩
  · rintro ⟨_, active, allowed, recorded⟩
    obtain ⟨teacher, built, rfl⟩ := List.mem_map.1 active
    exact ⟨teacher, built, allowed, (keeps teacher built _ _).2 recorded⟩

/-- What stands against a requirement stands against it in every order that keeps all records. -/
theorem Shortfall.recording {config : Config} {requirement : Requirement} {fault : AssemblyFault}
    (shortfall : problem.Shortfall config requirement fault) (same : records.Perm problem.qualifications)
    (keeps : problem.KeepsRecords) (reorderedKeeps : (problem.recording records).KeepsRecords) :
    (problem.recording records).Shortfall config requirement fault := by
  have someone : ∀ grade, (∃ teacher, (problem.recording records).CanGive requirement grade teacher) ↔
      ∃ teacher, problem.CanGive requirement grade teacher := by
    intro grade
    rw [keeps.someone_iff, reorderedKeeps.someone_iff]
    simp only [recorded_of_perm same]
    rfl
  cases shortfall with
  | nobody concerns nobody =>
      refine .nobody ⟨concerns.active, concerns.ofClass, concerns.inCatalog, concerns.ofSubject⟩ ?_
      exact not_exists.1 (mt (someone _).1 (not_exists.2 nobody))
  | nowhere concerns canGive nowhere roomsNeeded =>
      obtain ⟨teacher, gives⟩ := (someone _).2 ⟨_, canGive⟩
      exact .nowhere ⟨concerns.active, concerns.ofClass, concerns.inCatalog, concerns.ofSubject⟩ gives
        nowhere roomsNeeded

/-- A snapshot that is assembled is assembled in every order that keeps all records. -/
theorem assembles_recording (valid : problem.Valid) (same : records.Perm problem.qualifications)
    (keeps : problem.KeepsRecords) (reorderedKeeps : (problem.recording records).KeepsRecords) {config : Config}
    (assembled : ∃ timetable warnings, problem.assemble config = .ok (timetable, warnings)) :
    ∃ timetable warnings, (problem.recording records).assemble config = .ok (timetable, warnings) := by
  obtain ⟨required, roomy, served⟩ := (assembles_iff valid config).1 assembled
  refine (assembles_iff (valid.recording same) config).2 ⟨required, fun id overfull => ?_, ?_⟩
  · exact roomy id ⟨overfull.active, overfull.tooMany⟩
  · intro requirement listed fault shortfall
    exact served requirement listed fault (shortfall.recording same.symm reorderedKeeps keeps)

/-- Only the last record on a teacher and a subject counts. No record is lost in any order exactly if records on
one teacher and subject agree, and then whether a snapshot is assembled does not depend on the order. -/
theorem records_are_kept_unless_overruled {document : Json} (accepted : read document = .ok problem) :
    (problem.buildTeachers.map (·.id) = (problem.teachers.filter (·.active)).map (·.id) ∧
      ∀ teacher ∈ problem.buildTeachers, ∀ subject grade,
        teacher.isQualifiedFor subject grade = true ↔
          ∃ record, problem.LastRecord teacher.id subject record ∧ record.Lists grade) ∧
    ((∀ records, records.Perm problem.qualifications → (problem.recording records).KeepsRecords) ↔
      problem.RecordsAgree) ∧
    (problem.RecordsAgree → ∀ records, records.Perm problem.qualifications → ∀ config,
      (∃ timetable warnings, problem.assemble config = .ok (timetable, warnings)) ↔
        ∃ timetable warnings, (problem.recording records).assemble config = .ok (timetable, warnings)) := by
  have valid := valid_of_read accepted
  refine ⟨⟨build_teachers_ids, fun _ built => qualified_iff_last built⟩,
    ⟨agree_of_kept, fun agree _ => agree.keeps⟩, ?_⟩
  intro agree records same config
  have keeps : problem.KeepsRecords := agree.keeps (List.Perm.refl _)
  have reorderedKeeps := agree.keeps same
  exact ⟨assembles_recording valid same keeps reorderedKeeps,
    assembles_recording (valid.recording same) same.symm reorderedKeeps keeps⟩

/-- A term whose records on Meier list the same grades. Those on Kraus do not, who is not active. -/
def agreeingTerm : Problem where
  term := "T"
  slots := [⟨"first", 0, 1, none, none, false⟩]
  rooms := [⟨"hall", none, none, [], true⟩]
  subjects := [⟨"math", "Mathematics", none⟩, ⟨"art", "Art", none⟩]
  classes := [⟨"5a", "5a", 5, none, none, true⟩]
  teachers := [⟨"meier", "Meier", none, 28, true⟩, ⟨"kraus", "Kraus", none, 28, false⟩]
  qualifications :=
    [⟨"meier", "math", .primary, some [5, 6], some 4⟩, ⟨"meier", "art", .primary, some [7], none⟩,
      ⟨"kraus", "math", .primary, some [5], none⟩, ⟨"meier", "math", .secondary, some [6, 5, 6], none⟩,
      ⟨"kraus", "math", .primary, some [6], none⟩]
  availabilities := []
  requirements := [⟨some "r1", "5a", "math", 1, .every, []⟩]

theorem agreeing_term_read : read agreeingTerm.write = .ok agreeingTerm := by decide +kernel

theorem agreeing_records_are_kept : read agreeingTerm.write = .ok agreeingTerm ∧
    ∀ records, records.Perm agreeingTerm.qualifications → (agreeingTerm.recording records).KeepsRecords ∧
      ∃ timetable warnings, (agreeingTerm.recording records).assemble .standard = .ok (timetable, warnings) := by
  have agree : agreeingTerm.RecordsAgree := by decide +kernel
  have assembled : ∃ timetable warnings, agreeingTerm.assemble .standard = .ok (timetable, warnings) := by
    have faultless : agreeingTerm.assemblyFaults (agreeingTerm.lessonOutcomes false) = [] := by decide +kernel
    exact ⟨_, _, assemble_of_faultless faultless⟩
  obtain ⟨-, kept, orderless⟩ := records_are_kept_unless_overruled agreeing_term_read
  exact ⟨agreeing_term_read, fun records same =>
    ⟨kept.2 agree records same, (orderless agree records same .standard).1 assembled⟩⟩

def overrulingTerm : Problem where
  term := "T"
  slots := [⟨"first", 0, 1, none, none, false⟩]
  rooms := [⟨"hall", none, none, [], true⟩]
  subjects := [⟨"math", "Mathematics", none⟩]
  classes := [⟨"5a", "5a", 5, none, none, true⟩]
  teachers := [⟨"meier", "Meier", none, 28, true⟩]
  qualifications :=
    [⟨"meier", "math", .primary, some [5], none⟩, ⟨"meier", "math", .secondary, some [6], none⟩]
  availabilities := []
  requirements := [⟨some "r1", "5a", "math", 1, .every, []⟩]

/-- The first record is lost, so the snapshot is refused. With its records in the other order it is
assembled. -/
theorem overruled_record_is_lost : read overrulingTerm.write = .ok overrulingTerm ∧
    overrulingTerm.Recorded "meier" "math" 5 ∧
    overrulingTerm.buildTeachers.map (fun teacher => (teacher.id, teacher.isQualifiedFor "math" 5)) =
      [("meier", false)] ∧
    overrulingTerm.assemble .standard = .error [.noTeacher "r1" "Mathematics" 5] ∧
    ∃ timetable warnings, (overrulingTerm.recording overrulingTerm.qualifications.reverse).assemble .standard =
      .ok (timetable, warnings) := by
  have faultless : (overrulingTerm.recording overrulingTerm.qualifications.reverse).assemblyFaults
      ((overrulingTerm.recording overrulingTerm.qualifications.reverse).lessonOutcomes false) = [] := by
    decide +kernel
  exact ⟨by decide +kernel, ⟨_, List.mem_cons_self .., ⟨rfl, rfl⟩, [5], rfl, List.mem_cons_self ..⟩,
    by decide +kernel, by decide +kernel, _, _, assemble_of_faultless faultless⟩

end Problem

end SchoolTimetable
