import SchoolTimetable.Proofs.Entries.Ranks
import SchoolTimetable.Proofs.Problem.Sources
import SchoolTimetable.Proofs.Timetable.LessonIds

/-!
Who can give a lesson. The candidates for a requirement are the active teachers whom it allows and who are
qualified for it, better levels first and teachers of one level in the order in which they are allowed. A
teacher whom a requirement names twice is a candidate twice, so candidates are a ranked set only where no name
is repeated.
-/

namespace SchoolTimetable

theorem first_before {Member : Type} [DecidableEq Member] {members : List Member} {first second : Member}
    (inOrder : [first, second].Sublist members) (once : members.count second = 1) :
    members.idxOf first < members.idxOf second := by
  induction members with
  | nil => cases inOrder
  | cons member rest ih =>
      have later : second ∈ rest := by
        cases inOrder with
        | cons _ both => exact both.subset (List.mem_cons_of_mem _ (List.mem_cons_self ..))
        | cons_cons _ own => exact own.subset (List.mem_cons_self ..)
      have counted := List.count_pos_iff.2 later
      have different : member ≠ second := by
        rintro rfl
        rw [List.count_cons_self] at once
        omega
      rw [List.count_cons_of_ne different] at once
      rw [List.idxOf_cons_ne rest different]
      cases inOrder with
      | cons _ both =>
          have before := ih both once
          by_cases same : member = first
          · rw [same, List.idxOf_cons_self]
            exact Nat.succ_pos _
          · rw [List.idxOf_cons_ne rest same]
            exact Nat.succ_lt_succ before
      | cons_cons _ own =>
          rw [List.idxOf_cons_self]
          exact Nat.succ_pos _

namespace Problem

variable {problem : Problem} {requirement : Requirement} {grade : Int}

/-- How often a requirement allows a teacher. -/
def timesAllowed (requirement : Requirement) (teacher : Teacher) : Nat :=
  if requirement.candidates = [] then 1 else requirement.candidates.count teacher.id

def order (problem : Problem) (requirement : Requirement) : List String :=
  if requirement.candidates = [] then problem.teachers.map (·.id) else requirement.candidates

/-- The first teacher has a better level than the second by their last records, or is equally qualified and
comes first in the order. -/
def Precedes (problem : Problem) (requirement : Requirement) (first second : Teacher) : Prop :=
  ∃ own other, problem.LastRecord first.id requirement.subject own ∧
    problem.LastRecord second.id requirement.subject other ∧
    (own.level.rank < other.level.rank ∨ own.level = other.level ∧
      (problem.order requirement).idxOf first.id < (problem.order requirement).idxOf second.id)

/-- Those who can give the lessons of a requirement, each once and in their order. -/
structure Ranked (problem : Problem) (requirement : Requirement) (grade : Int) (teachers : List Teacher) :
    Prop where
  members : ∀ teacher, teacher ∈ teachers ↔ problem.CanGive requirement grade teacher
  once : teachers.Nodup
  ordered : teachers.Pairwise (problem.Precedes requirement)

theorem build_teachers_ids : problem.buildTeachers.map (·.id) =
    (problem.teachers.filter (·.active)).map (·.id) := by
  unfold buildTeachers
  rw [List.map_map]
  rfl

theorem Valid.built_ids_nodup (valid : problem.Valid) : (problem.buildTeachers.map (·.id)).Nodup := by
  rw [build_teachers_ids]
  exact valid.teacher_ids_nodup.sublist (List.filter_sublist.map _)

theorem find_built_iff (valid : problem.Valid) {teacher : Teacher}
    (built : teacher ∈ problem.buildTeachers) (id : String) :
    problem.buildTeachers.find? (·.id == id) = some teacher ↔ id = teacher.id := by
  constructor
  · intro found
    have same : teacher.id = id := by simpa using List.find?_some found
    exact same.symm
  · rintro rfl
    exact find_of_distinct valid.built_ids_nodup built

theorem count_allowed (valid : problem.Valid) {teacher : Teacher} (built : teacher ∈ problem.buildTeachers) :
    (allowedTeachers problem.buildTeachers requirement).count teacher = timesAllowed requirement teacher := by
  unfold allowedTeachers timesAllowed
  by_cases anyone : requirement.candidates = []
  · rw [if_pos (by simp [anyone]), if_pos anyone]
    exact List.count_eq_one_of_mem valid.built_ids_nodup.of_map built
  · rw [if_neg (by simpa using anyone), if_neg anyone, List.count_filterMap, List.count_eq_countP]
    apply List.countP_congr
    intro id _
    rw [beq_iff_eq, find_built_iff valid built, beq_iff_eq]

/-- A teacher is a candidate as often as the requirement allows the teacher. -/
theorem count_candidates (valid : problem.Valid) {teacher : Teacher}
    (canGive : problem.CanGive requirement grade teacher) :
    (problem.candidateTeachers problem.buildTeachers requirement grade).count teacher =
      timesAllowed requirement teacher := by
  let qualifies := fun teacher : Teacher => teacher.isQualifiedFor requirement.subject grade
  have kept : ((allowedTeachers problem.buildTeachers requirement).filter qualifies).count teacher =
      (allowedTeachers problem.buildTeachers requirement).count teacher :=
    List.count_filter canGive.qualified
  unfold candidateTeachers
  rw [(List.mergeSort_perm _ _).count_eq, kept, count_allowed valid canGive.active]

theorem times_allowed_pos {teacher : Teacher} (canGive : problem.CanGive requirement grade teacher) :
    0 < timesAllowed requirement teacher := by
  unfold timesAllowed
  split
  · exact Nat.one_pos
  · rename_i named
    exact List.count_pos_iff.2 (canGive.allowed.resolve_left named)

theorem times_allowed_of_distinct (distinct : requirement.candidates.Nodup) {teacher : Teacher}
    (canGive : problem.CanGive requirement grade teacher) : timesAllowed requirement teacher = 1 := by
  unfold timesAllowed
  split
  · rfl
  · rename_i named
    exact List.count_eq_one_of_mem distinct (canGive.allowed.resolve_left named)

theorem mem_candidates_iff (valid : problem.Valid) {teacher : Teacher} :
    teacher ∈ problem.candidateTeachers problem.buildTeachers requirement grade ↔
      problem.CanGive requirement grade teacher := by
  refine ⟨can_give_of_candidate, fun canGive => ?_⟩
  apply List.count_pos_iff.1
  rw [count_candidates valid canGive]
  exact times_allowed_pos canGive

theorem candidates_nil_iff (valid : problem.Valid) :
    problem.candidateTeachers problem.buildTeachers requirement grade = [] ↔
      ∀ teacher, ¬ problem.CanGive requirement grade teacher := by
  simp only [List.eq_nil_iff_forall_not_mem, mem_candidates_iff valid]

/-- Nobody is a candidate twice exactly if nobody who can give the lessons is allowed twice. -/
theorem candidates_nodup_iff (valid : problem.Valid) :
    (problem.candidateTeachers problem.buildTeachers requirement grade).Nodup ↔
      ∀ teacher, problem.CanGive requirement grade teacher → timesAllowed requirement teacher = 1 := by
  constructor
  · intro distinct teacher canGive
    rw [← count_candidates valid canGive]
    exact List.count_eq_one_of_mem distinct ((mem_candidates_iff valid).2 canGive)
  · intro once
    rw [List.nodup_iff_count_le_one]
    intro teacher
    by_cases canGive : problem.CanGive requirement grade teacher
    · rw [count_candidates valid canGive, once teacher canGive]
    · rw [List.count_eq_zero.2 (mt (mem_candidates_iff valid).1 canGive)]
      exact Nat.zero_le 1

/-- Whoever is found under an id has it, so the ids that are found are some of the ids in their order. -/
theorem found_ids_sublist (teachers : List Teacher) (ids : List String) :
    ((ids.filterMap fun id => teachers.find? (·.id == id)).map (·.id)).Sublist ids := by
  induction ids with
  | nil => exact .slnil
  | cons id rest ih =>
      cases found : teachers.find? (·.id == id) with
      | none =>
          simp only [List.filterMap_cons, found]
          exact ih.cons id
      | some teacher =>
          have same : teacher.id = id := by simpa using List.find?_some found
          simp only [List.filterMap_cons, found, List.map_cons, same]
          exact ih.cons_cons id

/-- Of two teachers that are allowed the second comes later in the order if it is allowed only once. -/
theorem allowed_in_order (valid : problem.Valid) {first second : Teacher}
    (inOrder : [first, second].Sublist (allowedTeachers problem.buildTeachers requirement))
    (once : timesAllowed requirement second = 1) :
    (problem.order requirement).idxOf first.id < (problem.order requirement).idxOf second.id := by
  have ids := inOrder.map (·.id)
  unfold allowedTeachers at ids
  unfold timesAllowed at once
  unfold order
  by_cases anyone : requirement.candidates = []
  · rw [if_pos (by simp [anyone]), build_teachers_ids] at ids
    rw [if_pos anyone]
    have inCatalog := ids.trans (List.filter_sublist.map _)
    refine first_before inCatalog (List.count_eq_one_of_mem valid.teacher_ids_nodup ?_)
    exact inCatalog.subset (List.mem_cons_of_mem _ (List.mem_cons_self ..))
  · rw [if_neg (by simpa using anyone)] at ids
    rw [if_neg anyone] at once ⊢
    exact first_before (ids.trans (found_ids_sublist ..)) once

theorem candidates_by_rank :
    (problem.candidateTeachers problem.buildTeachers requirement grade).Pairwise fun first second =>
      problem.rankOf requirement.subject first.id ≤ problem.rankOf requirement.subject second.id :=
  sorted_pairwise (fun teacher : Teacher => problem.rankOf requirement.subject teacher.id) _

theorem rank_lt (subject teacher : String) : problem.rankOf subject teacher < 4 := by
  unfold rankOf
  split
  · rename_i record _
    cases record.level <;> decide
  · decide

/-- The candidates are, level by level, those who are allowed and qualified in the order in which they are
allowed. -/
theorem candidates_by_level (teachers : List Teacher) :
    problem.candidateTeachers teachers requirement grade =
      byRank (fun teacher => problem.rankOf requirement.subject teacher.id) 4
        ((allowedTeachers teachers requirement).filter fun teacher =>
          teacher.isQualifiedFor requirement.subject grade) :=
  sort_by_rank fun teacher _ => rank_lt requirement.subject teacher.id

theorem level_eq_of_rank {first second : QualificationLevel} (same : first.rank = second.rank) :
    first = second := by
  cases first <;> cases second <;> first | rfl | cases same

/-- If nobody who can give the lessons is allowed twice then the candidates are in their order. -/
theorem candidates_ordered (valid : problem.Valid)
    (once : ∀ teacher, problem.CanGive requirement grade teacher → timesAllowed requirement teacher = 1) :
    (problem.candidateTeachers problem.buildTeachers requirement grade).Pairwise
      (problem.Precedes requirement) := by
  rw [List.pairwise_iff_forall_sublist]
  intro first second inOrder
  have firstGives := (mem_candidates_iff valid).1 (inOrder.subset (List.mem_cons_self ..))
  have secondGives := (mem_candidates_iff valid).1
    (inOrder.subset (List.mem_cons_of_mem _ (List.mem_cons_self ..)))
  obtain ⟨own, ownLast, -⟩ := (qualified_iff_last firstGives.active _ _).1 firstGives.qualified
  obtain ⟨other, otherLast, -⟩ := (qualified_iff_last secondGives.active _ _).1 secondGives.qualified
  refine ⟨own, other, ownLast, otherLast, ?_⟩
  have level := List.pairwise_iff_forall_sublist.1 candidates_by_rank inOrder
  rw [ownLast.rank, otherLast.rank] at level
  rcases Nat.lt_or_eq_of_le level with better | equal
  · exact .inl better
  · refine .inr ⟨level_eq_of_rank equal, ?_⟩
    -- Within a rank the sort keeps the order in which teachers are allowed.
    have ofRank : [first, second].filter (problem.rankOf requirement.subject ·.id = own.level.rank) =
        [first, second] := by
      simp [ownLast.rank, otherLast.rank, equal]
    have together := inOrder.filter (problem.rankOf requirement.subject ·.id = own.level.rank)
    unfold candidateTeachers at together
    rw [ofRank, sorted_of_rank fun teacher : Teacher => problem.rankOf requirement.subject teacher.id]
      at together
    have allowed := together.trans (List.filter_sublist.trans List.filter_sublist)
    exact allowed_in_order valid allowed (once second secondGives)

/-- There is one candidate exactly if one teacher can give the lessons and is allowed once. -/
theorem one_candidate_iff (valid : problem.Valid) :
    (problem.candidateTeachers problem.buildTeachers requirement grade).length = 1 ↔
      ∃ teacher, (∀ other, problem.CanGive requirement grade other ↔ other = teacher) ∧
        timesAllowed requirement teacher = 1 := by
  constructor
  · intro one
    obtain ⟨teacher, only⟩ := List.length_eq_one_iff.1 one
    have members : ∀ other, problem.CanGive requirement grade other ↔ other = teacher := by
      intro other
      rw [← mem_candidates_iff valid, only, List.mem_singleton]
    refine ⟨teacher, members, ?_⟩
    rw [← count_candidates valid ((members teacher).2 rfl), only, List.count_singleton_self]
  · rintro ⟨teacher, members, once⟩
    have canGive := (members teacher).2 rfl
    have same := List.eq_replicate_of_mem fun other listed =>
      (members other).1 ((mem_candidates_iff valid).1 listed)
    rw [← count_candidates valid canGive, same, List.count_replicate_self] at once
    exact once

theorem ranked_iff (valid : problem.Valid) :
    problem.Ranked requirement grade
        (problem.candidateTeachers problem.buildTeachers requirement grade) ↔
      ∀ teacher, problem.CanGive requirement grade teacher → timesAllowed requirement teacher = 1 := by
  constructor
  · intro ranked
    exact (candidates_nodup_iff valid).1 ranked.once
  · intro once
    exact ⟨fun _ => mem_candidates_iff valid, (candidates_nodup_iff valid).2 once,
      candidates_ordered valid once⟩

/-- An assembled lesson is one of a requirement, for whose subject and class it has its candidates. -/
theorem candidates_of_assembled {config : Config} {timetable : Timetable} {warnings : List WorkloadWarning}
    (assembled : problem.assemble config = .ok (timetable, warnings)) {lesson : Lesson}
    (listed : lesson ∈ timetable.lessons) :
    ∃ entry ∈ problem.prefixed, CarriesPrefix entry.2 lesson.id ∧
      lesson.schoolClass ∈ problem.buildClasses ∧ lesson.schoolClass.id = entry.1.schoolClass ∧
      lesson.subject.id = entry.1.subject ∧
      lesson.candidateTeachers =
        problem.candidateTeachers problem.buildTeachers entry.1 lesson.schoolClass.grade := by
  obtain ⟨entry, recorded, member, serves⟩ := serves_of_mem_assembled assembled listed
  refine ⟨entry, recorded, ?_⟩
  generalize problem.lessonsFor config entry = lessons at member serves
  cases serves with
  | inactive => cases member
  | active classFound subjectFound =>
      obtain ⟨hour, -, rfl⟩ := List.mem_map.1 member
      exact ⟨⟨hour + 1, rfl⟩, List.mem_of_find?_eq_some classFound,
        by simpa using List.find?_some classFound, by simpa using List.find?_some subjectFound, rfl⟩

/-- The candidates for a lesson are those who can give it, each as often as its requirement allows the
teacher. They are a ranked set exactly if nobody of them is allowed twice, and then the teacher is fixed exactly
if one can give the lesson; in general it must also be one who is allowed once. -/
theorem candidates_are_ranked_unless_repeated {document : Json} {config : Config} {timetable : Timetable}
    {warnings : List WorkloadWarning} (accepted : read document = .ok problem)
    (assembled : problem.assemble config = .ok (timetable, warnings)) {lesson : Lesson}
    (listed : lesson ∈ timetable.lessons) :
    ∃ entry ∈ problem.prefixed, CarriesPrefix entry.2 lesson.id ∧
      lesson.schoolClass ∈ problem.buildClasses ∧ lesson.schoolClass.id = entry.1.schoolClass ∧
      lesson.subject.id = entry.1.subject ∧
      (∀ teacher, problem.CanGive entry.1 lesson.schoolClass.grade teacher →
        lesson.candidateTeachers.count teacher = timesAllowed entry.1 teacher) ∧
      (problem.Ranked entry.1 lesson.schoolClass.grade lesson.candidateTeachers ↔
        ∀ teacher, problem.CanGive entry.1 lesson.schoolClass.grade teacher →
          timesAllowed entry.1 teacher = 1) ∧
      (problem.Ranked entry.1 lesson.schoolClass.grade lesson.candidateTeachers →
        (lesson.teacherIsFixed = true ↔
          ∃! teacher, problem.CanGive entry.1 lesson.schoolClass.grade teacher)) ∧
      (lesson.teacherIsFixed = true ↔
        ∃ teacher, (∀ other, problem.CanGive entry.1 lesson.schoolClass.grade other ↔ other = teacher) ∧
          timesAllowed entry.1 teacher = 1) := by
  have valid := valid_of_read accepted
  obtain ⟨entry, recorded, carries, inCatalog, ofClass, ofSubject, candidates⟩ :=
    candidates_of_assembled assembled listed
  have fixed : lesson.teacherIsFixed = true ↔
      ∃ teacher, (∀ other, problem.CanGive entry.1 lesson.schoolClass.grade other ↔ other = teacher) ∧
        timesAllowed entry.1 teacher = 1 := by
    rw [← one_candidate_iff valid, ← candidates]
    exact beq_iff_eq
  refine ⟨entry, recorded, carries, inCatalog, ofClass, ofSubject, ?_, ?_, ?_, fixed⟩
  · intro teacher canGive
    rw [candidates]
    exact count_candidates valid canGive
  · rw [candidates]
    exact ranked_iff valid
  · intro ranked
    rw [candidates, ranked_iff valid] at ranked
    rw [fixed]
    constructor
    · rintro ⟨teacher, members, -⟩
      exact ⟨teacher, (members teacher).2 rfl, fun other canGive => (members other).1 canGive⟩
    · rintro ⟨teacher, canGive, only⟩
      exact ⟨teacher, fun other => ⟨only other, fun same => same ▸ canGive⟩, ranked teacher canGive⟩

/-- A term with two classes of one grade. Lang does not teach at it and Kraus is not active. -/
def namingTerm : Problem where
  term := "T"
  slots := [⟨"first", 0, 1, none, none, false⟩]
  rooms := [⟨"hall", none, none, [], true⟩]
  subjects := [⟨"math", "Mathematics", none⟩, ⟨"art", "Art", none⟩]
  classes := [⟨"5a", "5a", 5, none, none, true⟩, ⟨"5b", "5b", 5, none, none, true⟩]
  teachers := [⟨"meier", "Meier", none, 28, true⟩, ⟨"huber", "Huber", none, 28, true⟩,
    ⟨"bauer", "Bauer", none, 28, true⟩, ⟨"lang", "Lang", none, 28, true⟩,
    ⟨"kraus", "Kraus", none, 28, false⟩]
  qualifications :=
    [⟨"meier", "math", .secondary, some [5], none⟩, ⟨"huber", "math", .substitute, some [5], none⟩,
      ⟨"huber", "math", .primary, some [5], none⟩, ⟨"bauer", "math", .primary, some [5, 6], none⟩,
      ⟨"lang", "math", .primary, some [6], none⟩, ⟨"kraus", "math", .primary, some [5], none⟩,
      ⟨"meier", "art", .primary, some [5], none⟩, ⟨"kraus", "art", .primary, some [5], none⟩]
  availabilities := []
  requirements :=
    [⟨some "r1", "5a", "math", 1, .every, ["lang", "bauer", "kraus", "meier", "huber"]⟩,
      ⟨some "r2", "5b", "art", 1, .every, []⟩]

theorem naming_term_read : read namingTerm.write = .ok namingTerm := by decide +kernel

theorem naming_term_lessons : namingTerm.assemblyFaults (namingTerm.lessonOutcomes false) = [] ∧
    (assembledLessons (namingTerm.lessonOutcomes false)).map (fun lesson =>
      (lesson.candidateTeachers.map (·.id), lesson.teacherIsFixed)) =
        [(["bauer", "huber", "meier"], false), (["meier"], true)] := by
  unfold lessonOutcomes requirementLessons
  simp only [candidates_by_level]
  decide +kernel

theorem named_teachers_are_ranked : read namingTerm.write = .ok namingTerm ∧
    ∃ timetable warnings, namingTerm.assemble .standard = .ok (timetable, warnings) ∧
      timetable.lessons.map (fun lesson => (lesson.candidateTeachers.map (·.id), lesson.teacherIsFixed)) =
        [(["bauer", "huber", "meier"], false), (["meier"], true)] ∧
      ∀ lesson ∈ timetable.lessons, ∃ requirement ∈ namingTerm.requirements,
        namingTerm.Ranked requirement lesson.schoolClass.grade lesson.candidateTeachers := by
  obtain ⟨warnings, assembled⟩ : ∃ warnings, namingTerm.assemble .standard =
      .ok (namingTerm.timetableOf (assembledLessons (namingTerm.lessonOutcomes false)), warnings) :=
    ⟨_, assemble_of_faultless naming_term_lessons.1⟩
  refine ⟨naming_term_read, _, warnings, assembled, naming_term_lessons.2, ?_⟩
  intro lesson listed
  obtain ⟨entry, recorded, -, -, -, -, -, ranked, -⟩ :=
    candidates_are_ranked_unless_repeated naming_term_read assembled listed
  have distinct : ∀ requirement ∈ namingTerm.requirements, requirement.candidates.Nodup := by decide
  have required := (List.of_mem_zip recorded).1
  exact ⟨entry.1, required, ranked.2 fun _ => times_allowed_of_distinct (distinct _ required)⟩

/-- A term in which the only requirement names its only teacher twice. -/
def repeatingTerm : Problem where
  term := "T"
  slots := [⟨"first", 0, 1, none, none, false⟩]
  rooms := [⟨"hall", none, none, [], true⟩]
  subjects := [⟨"math", "Mathematics", none⟩]
  classes := [⟨"5a", "5a", 5, none, none, true⟩]
  teachers := [⟨"meier", "Meier", none, 28, true⟩]
  qualifications := [⟨"meier", "math", .primary, some [5], none⟩]
  availabilities := []
  requirements := [⟨some "r1", "5a", "math", 1, .every, ["meier", "meier"]⟩]

theorem repeating_term_lessons :
    repeatingTerm.assemblyFaults (repeatingTerm.lessonOutcomes false) = [] ∧
      (assembledLessons (repeatingTerm.lessonOutcomes false)).map (fun lesson =>
        (lesson.schoolClass.grade, lesson.candidateTeachers.map (·.id), lesson.teacherIsFixed)) =
          [(5, ["meier", "meier"], false)] := by
  unfold lessonOutcomes requirementLessons
  simp only [candidates_by_level]
  decide +kernel

/-- The only lesson has one teacher who can give it, who is a candidate twice and not fixed. -/
theorem repeated_teacher_is_not_fixed : read repeatingTerm.write = .ok repeatingTerm ∧
    (∃ timetable warnings, repeatingTerm.assemble .standard = .ok (timetable, warnings) ∧
      timetable.lessons.map (fun lesson =>
        (lesson.schoolClass.grade, lesson.candidateTeachers.map (·.id), lesson.teacherIsFixed)) =
          [(5, ["meier", "meier"], false)]) ∧
    ∀ requirement ∈ repeatingTerm.requirements, ∃! teacher, repeatingTerm.CanGive requirement 5 teacher := by
  refine ⟨by decide +kernel,
    ⟨_, _, assemble_of_faultless repeating_term_lessons.1, repeating_term_lessons.2⟩, ?_⟩
  intro requirement required
  obtain rfl := List.mem_singleton.1 required
  obtain ⟨teacher, only⟩ : ∃ teacher, repeatingTerm.buildTeachers = [teacher] := ⟨_, rfl⟩
  have active : teacher ∈ repeatingTerm.buildTeachers := only ▸ List.mem_singleton_self teacher
  have able : ∀ teacher ∈ repeatingTerm.buildTeachers,
      teacher.id ∈ ["meier", "meier"] ∧ teacher.isQualifiedFor "math" 5 = true := by decide +kernel
  refine ⟨teacher, ⟨active, .inr (able teacher active).1, (able teacher active).2⟩, ?_⟩
  intro other canGive
  exact List.mem_singleton.1 (only ▸ canGive.active)

end Problem

end SchoolTimetable
