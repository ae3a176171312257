import Mathlib.Algebra.Order.Ring.Rat
import Mathlib.Tactic.Linarith
import SchoolTimetable.Proofs.Timetable.Candidates
import SchoolTimetable.Proofs.Timetable.Lookups

/-!
The hours that are fixed for teachers, and the warnings of more than there should be. Lessons are counted in half
hours under the ids of teachers and subjects; where the ids tell them apart, as in every assembled timetable, this
is the sum of the hours of their lessons, and the warnings are exact.
-/

namespace SchoolTimetable

def Lesson.weeklyHours (lesson : Lesson) : ℚ := if lesson.pattern = .every then 1 else 1 / 2

def halvesOf (lessons : List Lesson) : Int := (lessons.map Problem.halfHours).sum

theorem half_hours_of_lesson (lesson : Lesson) : (Problem.halfHours lesson : ℚ) / 2 = lesson.weeklyHours := by
  unfold Problem.halfHours Lesson.weeklyHours
  cases lesson.pattern <;> simp

theorem halves_of_lessons (lessons : List Lesson) :
    (halvesOf lessons : ℚ) / 2 = (lessons.map Lesson.weeklyHours).sum := by
  unfold halvesOf
  induction lessons with
  | nil => norm_num
  | cons lesson rest ih =>
      rw [List.map_cons, List.map_cons, List.sum_cons, List.sum_cons, ← ih, ← half_hours_of_lesson]
      push_cast
      rw [add_div]

/-- Twice a limit is below a count of halves exactly if the limit is below the hours. -/
theorem twice_lt_halves_iff {most : Int} {lessons : List Lesson} :
    2 * most < halvesOf lessons ↔ (most : ℚ) < (lessons.map Lesson.weeklyHours).sum := by
  rw [← halves_of_lessons, lt_div_iff₀ two_pos, mul_comm]
  exact_mod_cast Iff.rfl

namespace Problem

variable {problem : Problem} {config : Config} {lessons : List Lesson}

/-- The teachers of fixed lessons, in the order of their first ones. -/
def fixedTeachers (lessons : List Lesson) : List Teacher :=
  ((lessons.filter (·.teacherIsFixed)).flatMap (·.candidateTeachers)).eraseDups

/-- The teachers of fixed lessons with the subjects, in the order of their first lessons. -/
def fixedSubjects (lessons : List Lesson) : List (Teacher × Subject) :=
  ((lessons.filter (·.teacherIsFixed)).flatMap fun lesson =>
    lesson.candidateTeachers.map (·, lesson.subject)).eraseDups

def fixedFor (lessons : List Lesson) (teacher : Teacher) : List Lesson :=
  lessons.filter fun lesson => lesson.teacherIsFixed && lesson.candidateTeachers.contains teacher

def weeklyLoad (lessons : List Lesson) (teacher : Teacher) : ℚ :=
  ((fixedFor lessons teacher).map Lesson.weeklyHours).sum

def subjectLoad (lessons : List Lesson) (pair : Teacher × Subject) : ℚ :=
  (((fixedFor lessons pair.1).filter (·.subject = pair.2)).map Lesson.weeklyHours).sum

/-- The cap of the last record on a teacher in a subject that states one. -/
def LastCap (problem : Problem) (teacher subject : String) (cap : Int) : Prop :=
  ∃ before record after, problem.qualifications = before ++ record :: after ∧ record.IsOn teacher subject ∧
    record.maxHours = some cap ∧ ∀ later ∈ after, later.IsOn teacher subject → later.maxHours = none

/-- Warnings of just the teachers with more fixed hours than their limit, then of just those with more in a
subject than the last cap, both in the order of their first fixed lessons. -/
def WarnsExactly (problem : Problem) (lessons : List Lesson) (warnings : List WorkloadWarning) : Prop :=
  ∃ weekly perSubject, warnings = weekly ++ perSubject ∧
    List.Forall₂
      (fun teacher warning => ∃ halves : Int, (halves : ℚ) / 2 = weeklyLoad lessons teacher ∧
        warning = .weekly teacher.name halves teacher.maxHours)
      ((fixedTeachers lessons).filter fun teacher => teacher.maxHours < weeklyLoad lessons teacher) weekly ∧
    List.Forall₂
      (fun pair warning => ∃ (halves cap : Int), (halves : ℚ) / 2 = subjectLoad lessons pair ∧
        problem.LastCap pair.1.id pair.2.id cap ∧
        warning = .ofSubject pair.1.name halves pair.2.id cap)
      ((fixedSubjects lessons).filter fun pair =>
        (problem.subjectCap? pair.1.id pair.2.id).any fun cap => cap < subjectLoad lessons pair) perSubject

theorem subject_cap_iff {teacher subject : String} {cap : Int} :
    problem.subjectCap? teacher subject = some cap ↔ problem.LastCap teacher subject cap := by
  have states : ∀ record : Qualification, ∀ cap,
      (if record.teacher == teacher && record.subject == subject then record.maxHours else none) = some cap ↔
        record.IsOn teacher subject ∧ record.maxHours = some cap := by
    intro record cap
    simp [Qualification.IsOn]
  have silent : ∀ record : Qualification,
      (if record.teacher == teacher && record.subject == subject then record.maxHours else none) = none ↔
        (record.IsOn teacher subject → record.maxHours = none) := by
    intro record
    simp [Qualification.IsOn]
  unfold subjectCap? LastCap
  rw [List.filterMap_filter, List.getLast?_filterMap, List.findSome?_eq_some_iff]
  constructor
  · rintro ⟨after, record, before, split, stated, none⟩
    obtain ⟨own, caps⟩ := (states record cap).1 stated
    refine ⟨before.reverse, record, after.reverse, ?_, own, caps, ?_⟩
    · rw [← List.reverse_reverse problem.qualifications, split]
      simp
    · intro later listed
      exact (silent later).1 (none later (List.mem_reverse.1 listed))
  · rintro ⟨before, record, after, split, own, caps, none⟩
    refine ⟨after.reverse, record, before.reverse, by simp [split], (states record cap).2 ⟨own, caps⟩, ?_⟩
    intro later listed
    exact (silent later).2 (none later (List.mem_reverse.1 listed))

theorem teacher_is_fixed_iff {lesson : Lesson} :
    lesson.teacherIsFixed = true ↔ ∃ teacher, lesson.candidateTeachers = [teacher] := by
  unfold Lesson.teacherIsFixed
  rw [beq_iff_eq, List.length_eq_one_iff]

theorem fixed_lessons_eq (lessons : List Lesson) :
    fixedLessons lessons = (lessons.filter (·.teacherIsFixed)).flatMap fun lesson =>
      lesson.candidateTeachers.map (·, lesson) := by
  induction lessons with
  | nil => rfl
  | cons lesson rest ih =>
      unfold fixedLessons at ih ⊢
      by_cases fixed : lesson.teacherIsFixed = true
      · obtain ⟨teacher, only⟩ := teacher_is_fixed_iff.1 fixed
        rw [List.filter_cons_of_pos fixed, List.flatMap_cons, ← ih, only, List.filterMap_cons, only]
        rfl
      · rw [List.filter_cons_of_neg fixed, ← ih, List.filterMap_cons_none]
        split
        · rename_i teacher only
          exact absurd (teacher_is_fixed_iff.2 ⟨teacher, only⟩) fixed
        · rfl

theorem mem_fixed_lessons {pair : Teacher × Lesson} :
    pair ∈ fixedLessons lessons ↔ pair.2 ∈ lessons ∧ pair.2.candidateTeachers = [pair.1] := by
  rw [fixed_lessons_eq, List.mem_flatMap]
  constructor
  · rintro ⟨lesson, fixed, listed⟩
    obtain ⟨member, isFixed⟩ := List.mem_filter.1 fixed
    obtain ⟨teacher, candidate, rfl⟩ := List.mem_map.1 listed
    obtain ⟨only, candidates⟩ := teacher_is_fixed_iff.1 isFixed
    rw [candidates] at candidate
    exact ⟨member, List.mem_singleton.1 candidate ▸ candidates⟩
  · rintro ⟨member, candidates⟩
    refine ⟨pair.2, List.mem_filter.2 ⟨member, teacher_is_fixed_iff.2 ⟨_, candidates⟩⟩, ?_⟩
    rw [candidates]
    exact List.mem_singleton_self pair

theorem fixed_teachers_eq (lessons : List Lesson) :
    fixedTeachers lessons = ((fixedLessons lessons).map (·.1)).eraseDups := by
  rw [fixed_lessons_eq, List.map_flatMap]
  simp only [List.map_map, Function.comp_def, List.map_id']
  rfl

theorem fixed_subjects_eq (lessons : List Lesson) :
    fixedSubjects lessons = ((fixedLessons lessons).map fun pair => (pair.1, pair.2.subject)).eraseDups := by
  rw [fixed_lessons_eq, List.map_flatMap]
  simp only [List.map_map, Function.comp_def]
  rfl

/-- The fixed lessons with one teacher are those that are fixed for the teacher. -/
theorem fixed_for_eq (lessons : List Lesson) (teacher : Teacher) :
    ((fixedLessons lessons).filter (·.1 == teacher)).map (·.2) = fixedFor lessons teacher := by
  unfold fixedFor fixedLessons
  rw [List.filter_filterMap, List.map_filterMap, ← List.filterMap_eq_filter]
  refine List.filterMap_congr fun lesson _ => ?_
  by_cases fixed : lesson.teacherIsFixed = true
  · obtain ⟨only, candidates⟩ := teacher_is_fixed_iff.1 fixed
    rw [candidates]
    by_cases own : only = teacher
    · simp [Option.guard, fixed, candidates, own]
    · simp [Option.guard, fixed, candidates, own, Ne.symm own]
  · split
    · rename_i only candidates
      exact absurd (teacher_is_fixed_iff.2 ⟨only, candidates⟩) fixed
    · simp [Option.guard, fixed]

theorem fixed_for_subject_eq (lessons : List Lesson) (own : Teacher × Subject) :
    ((fixedLessons lessons).filter fun pair => (pair.1, pair.2.subject) == own).map (·.2) =
      (fixedFor lessons own.1).filter (·.subject = own.2) := by
  rw [← fixed_for_eq, List.filter_map, List.filter_filter]
  congr 1
  refine List.filter_congr fun pair _ => Bool.eq_iff_iff.2 ?_
  simp [Prod.ext_iff, and_comm]

structure KnownById (lessons : List Lesson) : Prop where
  teachers : ∀ first ∈ fixedLessons lessons, ∀ second ∈ fixedLessons lessons,
    first.1.id = second.1.id → first.1 = second.1
  subjects : ∀ first ∈ fixedLessons lessons, ∀ second ∈ fixedLessons lessons,
    first.2.subject.id = second.2.subject.id → first.2.subject = second.2.subject

/-- Each teacher is counted at the first fixed lesson, with the half hours of all of them. -/
theorem weekly_hours_eq (known : KnownById lessons) : weeklyHours lessons =
    (fixedTeachers lessons).map fun teacher => (teacher.id, halvesOf (fixedFor lessons teacher)) := by
  unfold weeklyHours
  rw [Entries.totals_of_apart (halfHours ·.2) (fun pair : Teacher × Lesson => pair.1) (·.id) known.teachers,
    fixed_teachers_eq]
  simp only [← fixed_for_eq, halvesOf, List.map_map, Function.comp_def]

/-- Each teacher in a subject is counted at the first of their lessons, with the half hours of all of them. -/
theorem subject_hours_eq (known : KnownById lessons) : subjectHours lessons =
    (fixedSubjects lessons).map fun pair =>
      ((pair.1.id, pair.2.id), halvesOf ((fixedFor lessons pair.1).filter (·.subject = pair.2))) := by
  unfold subjectHours
  rw [Entries.totals_of_apart (halfHours ·.2) (fun pair : Teacher × Lesson => (pair.1, pair.2.subject))
    (fun own => (own.1.id, own.2.id)), fixed_subjects_eq]
  · simp only [← fixed_for_subject_eq, halvesOf, List.map_map, Function.comp_def]
  · intro first firstListed second secondListed same
    obtain ⟨sameTeacher, sameSubject⟩ := Prod.mk.inj same
    rw [known.teachers first firstListed second secondListed sameTeacher,
      known.subjects first firstListed second secondListed sameSubject]

def warningsBy (teacher? : String → Option Teacher) (cap? : String → String → Option Int)
    (lessons : List Lesson) : List WorkloadWarning :=
  ((weeklyHours lessons).filterMap fun counted => do
    let teacher ← teacher? counted.1
    weeklyWarning teacher counted.2) ++
  (subjectHours lessons).filterMap fun counted => do
    let teacher ← teacher? counted.1.1
    let cap ← cap? counted.1.1 counted.1.2
    if 2 * cap < counted.2 then some (.ofSubject teacher.name counted.2 counted.1.2 cap) else none

theorem warnings_by_are_exact (known : KnownById lessons) {teacher? : String → Option Teacher}
    (finds : ∀ pair ∈ fixedLessons lessons, teacher? pair.1.id = some pair.1) :
    WarnsExactly problem lessons (warningsBy teacher? problem.subjectCap? lessons) := by
  have findsTeacher : ∀ teacher ∈ fixedTeachers lessons, teacher? teacher.id = some teacher := by
    intro teacher listed
    rw [fixed_teachers_eq, List.mem_eraseDups] at listed
    obtain ⟨pair, fixed, rfl⟩ := List.mem_map.1 listed
    exact finds pair fixed
  have findsIn : ∀ own ∈ fixedSubjects lessons, teacher? own.1.id = some own.1 := by
    intro own listed
    rw [fixed_subjects_eq, List.mem_eraseDups] at listed
    obtain ⟨pair, fixed, rfl⟩ := List.mem_map.1 listed
    exact finds pair fixed
  refine ⟨_, _, rfl, ?_, ?_⟩
  · rw [weekly_hours_eq known, List.filterMap_map]
    refine forall₂_filter_of_filter_map (fun teacher listed exceeds => ?_) fun teacher listed within => ?_
    · refine ⟨_, ?_, halvesOf (fixedFor lessons teacher), halves_of_lessons _, rfl⟩
      dsimp only [Function.comp]
      rw [findsTeacher teacher listed]
      exact if_pos (twice_lt_halves_iff.2 (of_decide_eq_true exceeds))
    · dsimp only [Function.comp]
      rw [findsTeacher teacher listed]
      exact if_neg (mt twice_lt_halves_iff.1 (of_decide_eq_false within))
  · rw [subject_hours_eq known, List.filterMap_map]
    refine forall₂_filter_of_filter_map (fun own listed exceeds => ?_) fun own listed within => ?_
    · cases capped : problem.subjectCap? own.1.id own.2.id with
      | none =>
          rw [capped] at exceeds
          cases exceeds
      | some cap =>
          rw [capped] at exceeds
          refine ⟨_, ?_, halvesOf ((fixedFor lessons own.1).filter (·.subject = own.2)), cap,
            halves_of_lessons _, subject_cap_iff.1 capped, rfl⟩
          dsimp only [Function.comp]
          rw [findsIn own listed]
          dsimp only [Option.bind_eq_bind, Option.bind]
          rw [capped]
          exact if_pos (twice_lt_halves_iff.2 (of_decide_eq_true exceeds))
    · dsimp only [Function.comp]
      rw [findsIn own listed]
      dsimp only [Option.bind_eq_bind, Option.bind]
      cases capped : problem.subjectCap? own.1.id own.2.id with
      | none => rfl
      | some cap =>
          rw [capped] at within
          exact if_neg (mt twice_lt_halves_iff.1 (of_decide_eq_false within))

theorem find_fixed_teacher (known : KnownById lessons) :
    ∀ pair ∈ fixedLessons lessons,
      ((fixedLessons lessons).find? (·.1.id == pair.1.id)).map (·.1) = some pair.1 := by
  intro pair listed
  cases found : (fixedLessons lessons).find? (·.1.id == pair.1.id) with
  | none => exact absurd (beq_self_eq_true _) (List.find?_eq_none.1 found pair listed)
  | some first =>
      have same : first.1.id = pair.1.id := by simpa using List.find?_some found
      exact congrArg some (known.teachers first (List.mem_of_find?_eq_some found) pair listed same)

def teachersById (lessons : List Lesson) : List (String × Teacher) :=
  Entries.ofList ((fixedLessons lessons).map fun pair => (pair.1.id, pair.1))

/-- The last of the fixed lessons under an id has the teacher of all of them. -/
theorem get_fixed_teacher (known : KnownById lessons) :
    ∀ pair ∈ fixedLessons lessons, Entries.get? pair.1.id (teachersById lessons) = some pair.1 := by
  intro pair listed
  unfold teachersById
  rw [Entries.get_of_list, List.filter_map, List.getLast?_map, Option.map_map]
  cases kept : ((fixedLessons lessons).filter ((·.1 = pair.1.id) ∘ fun pair => (pair.1.id, pair.1))).getLast? with
  | none =>
      rw [List.getLast?_eq_none_iff] at kept
      exact absurd (decide_eq_true rfl) (List.filter_eq_nil_iff.1 kept pair listed)
  | some last =>
      obtain ⟨fixed, same⟩ := List.mem_filter.1 (List.mem_of_getLast? kept)
      exact congrArg some (known.teachers last fixed pair listed (of_decide_eq_true same))

theorem warnings_by_congr (first second : String → Option Teacher) {cap? : String → String → Option Int}
    (alike : ∀ pair ∈ fixedLessons lessons, first pair.1.id = second pair.1.id) :
    warningsBy first cap? lessons = warningsBy second cap? lessons := by
  unfold warningsBy
  congr 1
  · refine List.filterMap_congr fun counted listed => ?_
    obtain ⟨pair, fixed, own⟩ := counted_fixed listed
    rw [← own, alike pair fixed]
  · refine List.filterMap_congr fun counted listed => ?_
    obtain ⟨pair, fixed, own⟩ := counted_fixed listed
    rw [← own, alike pair fixed]

/-- It makes no difference whether teachers are looked for among the fixed lessons or under their ids. -/
theorem workload_warnings_eq (known : KnownById lessons) : problem.workloadWarnings lessons =
    warningsBy (Entries.get? · (teachersById lessons)) problem.subjectCap? lessons := by
  refine warnings_by_congr (fun id => ((fixedLessons lessons).find? (·.1.id == id)).map (·.1))
    (Entries.get? · (teachersById lessons)) fun pair fixed => ?_
  exact (find_fixed_teacher known pair fixed).trans (get_fixed_teacher known pair fixed).symm

theorem warns_exactly_of_known (known : KnownById lessons) :
    WarnsExactly problem lessons (problem.workloadWarnings lessons) := by
  rw [workload_warnings_eq known]
  exact warnings_by_are_exact known (get_fixed_teacher known)

/-- Teachers and subjects of assembled lessons come from catalogs in which ids are distinct. -/
theorem known_of_assembled {document : Json} {timetable : Timetable} {warnings : List WorkloadWarning}
    (accepted : read document = .ok problem) (assembled : problem.assemble config = .ok (timetable, warnings)) :
    KnownById timetable.lessons := by
  have valid := valid_of_read accepted
  have built : ∀ pair ∈ fixedLessons timetable.lessons, pair.1 ∈ problem.buildTeachers := by
    intro pair fixed
    obtain ⟨listed, only⟩ := mem_fixed_lessons.1 fixed
    obtain ⟨entry, -, -, -, -, -, candidates⟩ := candidates_of_assembled assembled listed
    have candidate : pair.1 ∈ pair.2.candidateTeachers := by
      rw [only]
      exact List.mem_singleton_self _
    exact (can_give_of_candidate (candidates ▸ candidate)).active
  have foundById : ∀ lesson ∈ timetable.lessons,
      problem.buildSubjects.find? (·.id == lesson.subject.id) = some lesson.subject := by
    intro lesson listed
    obtain ⟨entry, -, member, serves⟩ := serves_of_mem_assembled assembled listed
    generalize problem.lessonsFor config entry = lessons at member serves
    cases serves with
    | inactive => cases member
    | @active schoolClass subject _ subjectFound =>
        have own : subject.id = entry.1.subject := by simpa using List.find?_some subjectFound
        obtain ⟨hour, -, rfl⟩ := List.mem_map.1 member
        change problem.buildSubjects.find? (·.id == subject.id) = some subject
        rw [own, subjectFound]
  refine ⟨fun first firstFixed second secondFixed same => ?_, fun first firstFixed second secondFixed same => ?_⟩
  · exact List.inj_on_of_nodup_map valid.built_ids_nodup (built first firstFixed) (built second secondFixed) same
  · have firstFound := foundById first.2 (mem_fixed_lessons.1 firstFixed).1
    have secondFound := foundById second.2 (mem_fixed_lessons.1 secondFixed).1
    rw [same, secondFound] at firstFound
    exact (Option.some.inj firstFound).symm

end Problem

end SchoolTimetable
