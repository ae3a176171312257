import SchoolTimetable.Proofs.Entries.Totals
import SchoolTimetable.Timetable.Assembly

/-!
Several records may be on one teacher and subject. The last of them alone decides at which grades the teacher
is qualified for the subject, and how well.
-/

namespace SchoolTimetable

namespace Qualification

def IsOn (record : Qualification) (teacher subject : String) : Prop :=
  record.teacher = teacher ∧ record.subject = subject

/-- A record without grades lists none. -/
def Lists (record : Qualification) (grade : Int) : Prop :=
  ∃ grades, record.grades = some grades ∧ grade ∈ grades

theorem lists_iff {record : Qualification} {grade : Int} :
    record.Lists grade ↔ grade ∈ record.grades.getD [] := by
  unfold Lists
  cases record.grades <;> simp

end Qualification

theorem last_kept_iff {Member : Type} {keeps : Member → Bool} {members : List Member} {member : Member} :
    (members.filter keeps).getLast? = some member ↔ keeps member = true ∧
      ∃ before after, members = before ++ member :: after ∧ ∀ later ∈ after, keeps later = false := by
  rw [List.getLast?_eq_head?_reverse, ← List.filter_reverse, List.head?_filter, List.find?_eq_some_iff_append]
  refine and_congr_right fun _ => ?_
  constructor
  · rintro ⟨passed, rest, split, none⟩
    refine ⟨rest.reverse, passed.reverse, ?_, ?_⟩
    · rw [← List.reverse_reverse members, split]
      simp
    · intro later listed
      simpa using none later (List.mem_reverse.1 listed)
  · rintro ⟨before, after, rfl, none⟩
    refine ⟨after.reverse, before.reverse, by simp, ?_⟩
    intro later listed
    simpa using none later (List.mem_reverse.1 listed)

namespace Entries

variable {Key Value : Type} [DecidableEq Key]

theorem lookup_eq_get (key : String) (entries : List (String × Value)) :
    entries.lookup key = get? key entries := by
  induction entries with
  | nil => rfl
  | cons entry rest ih =>
      obtain ⟨name, value⟩ := entry
      by_cases same : name = key
      · subst same
        simp [get?]
      · have different : (key == name) = false := beq_eq_false_iff_ne.2 (Ne.symm same)
        rw [get_cons_of_ne same, ← ih, List.lookup_cons, different]

end Entries

namespace Problem

variable {problem : Problem} {teacher subject : String}

/-- A record on a teacher in a subject that no other follows. -/
structure LastRecord (problem : Problem) (teacher subject : String) (record : Qualification) : Prop where
  own : record.IsOn teacher subject
  last : ∃ before after, problem.qualifications = before ++ record :: after ∧
    ∀ later ∈ after, ¬ later.IsOn teacher subject

theorem LastRecord.mem {record : Qualification} (last : problem.LastRecord teacher subject record) :
    record ∈ problem.qualifications := by
  obtain ⟨before, after, split, -⟩ := last.last
  rw [split]
  exact List.mem_append_right before (List.mem_cons_self ..)

theorem last_record_iff {record : Qualification} :
    (problem.qualifications.filter fun record =>
        record.teacher == teacher && record.subject == subject).getLast? = some record ↔
      problem.LastRecord teacher subject record := by
  have kept : ∀ record : Qualification,
      (record.teacher == teacher && record.subject == subject) = true ↔ record.IsOn teacher subject := by
    intro record
    rw [Bool.and_eq_true, beq_iff_eq, beq_iff_eq, Qualification.IsOn]
  rw [last_kept_iff, kept]
  constructor
  · rintro ⟨own, before, after, split, none⟩
    exact ⟨own, before, after, split, fun later listed => mt (kept later).2 (by simp [none later listed])⟩
  · rintro ⟨own, before, after, split, none⟩
    refine ⟨own, before, after, split, fun later listed => ?_⟩
    exact Bool.eq_false_iff.2 (mt (kept later).1 (none later listed))

theorem LastRecord.unique {first second : Qualification} (left : problem.LastRecord teacher subject first)
    (right : problem.LastRecord teacher subject second) : first = second :=
  Option.some.inj ((last_record_iff.2 left).symm.trans (last_record_iff.2 right))

theorem exists_last_record {record : Qualification} (listed : record ∈ problem.qualifications)
    (own : record.IsOn teacher subject) : ∃ last, problem.LastRecord teacher subject last := by
  have kept : record ∈ problem.qualifications.filter fun record =>
      record.teacher == teacher && record.subject == subject :=
    List.mem_filter.2 ⟨listed, by simp [own.1, own.2]⟩
  exact ⟨_, last_record_iff.1 (List.getLast?_eq_some_getLast (List.ne_nil_of_mem kept))⟩

theorem LastRecord.rank {record : Qualification} (last : problem.LastRecord teacher subject record) :
    problem.rankOf subject teacher = record.level.rank := by
  unfold rankOf
  rw [last_record_iff.2 last]

theorem lookup_grades (problem : Problem) (teacher subject : String) :
    (problem.gradesBySubject teacher).lookup subject =
      ((problem.qualifications.filter fun record =>
        record.teacher == teacher && record.subject == subject).getLast?).map (·.grades.getD []) := by
  unfold gradesBySubject
  rw [Entries.lookup_eq_get, Entries.get_of_list, List.filter_map, List.getLast?_map, List.filter_filter,
    Option.map_map]
  congr 3
  funext record
  simp [Function.comp, Bool.and_comm, Bool.beq_eq_decide_eq]

theorem qualified_iff_last {teacher : Teacher} (built : teacher ∈ problem.buildTeachers) (subject : String)
    (grade : Int) : teacher.isQualifiedFor subject grade = true ↔
      ∃ record, problem.LastRecord teacher.id subject record ∧ record.Lists grade := by
  obtain ⟨entry, -, rfl⟩ := List.mem_map.1 built
  unfold Teacher.isQualifiedFor
  dsimp only
  rw [lookup_grades]
  simp only [← last_record_iff, Qualification.lists_iff]
  cases (problem.qualifications.filter fun record =>
    record.teacher == entry.id && record.subject == subject).getLast? <;> simp

end Problem

end SchoolTimetable
