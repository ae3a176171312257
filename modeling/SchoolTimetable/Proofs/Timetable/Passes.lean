import SchoolTimetable.Proofs.Timetable.Workload
import SchoolTimetable.Timetable.Assembler

/-!
The passes of an assembler. A pass notes the caps over those that are noted already, and counts the lessons one by
one; it ends with what assembly gives, and what is kept of it does not change the outcome of the next.
-/

namespace SchoolTimetable

open Problem

namespace Workload

theorem of_lessons_eq (lessons : List Lesson) :
    ofLessons lessons = ⟨weeklyHours lessons, subjectHours lessons, teachersById lessons⟩ := by
  induction lessons using List.reverseRecOn with
  | nil => rfl
  | append_singleton lessons lesson ih =>
      have counted : ofLessons (lessons ++ [lesson]) = (ofLessons lessons).count lesson := by
        unfold ofLessons
        rw [List.foldl_concat]
      have fixed : fixedLessons (lessons ++ [lesson]) = fixedLessons lessons ++ fixedLessons [lesson] :=
        List.filterMap_append
      rw [counted, ih]
      unfold weeklyHours subjectHours teachersById count
      rw [fixed]
      split
      · rename_i teacher only
        have own : fixedLessons [lesson] = [(teacher, lesson)] := by
          rw [fixed_lessons_eq, List.filter_cons_of_pos (teacher_is_fixed_iff.2 ⟨teacher, only⟩)]
          simp [only]
        rw [own, Entries.totals_concat, Entries.totals_concat, List.map_append, List.map_singleton,
          Entries.of_list_concat]
      · rename_i several
        have free : ¬ lesson.teacherIsFixed = true := by
          rw [teacher_is_fixed_iff]
          rintro ⟨teacher, only⟩
          exact several teacher only
        have none : fixedLessons [lesson] = [] := by
          rw [fixed_lessons_eq, List.filter_cons_of_neg free]
          rfl
        rw [none, List.append_nil]

def weekWarning? (workload : Workload) (counted : String × Int) : Option WorkloadWarning := do
  let teacher ← Entries.get? counted.1 workload.teachers
  weeklyWarning teacher counted.2

/-- The warning of a teacher in a subject, if teacher and cap are found and there are too many hours. -/
def subjectWarning? (workload : Workload) (caps : List ((String × String) × Int))
    (counted : (String × String) × Int) : Option WorkloadWarning := do
  let teacher ← Entries.get? counted.1.1 workload.teachers
  let cap ← Entries.get? counted.1 caps
  if 2 * cap < counted.2 then some (.ofSubject teacher.name counted.2 counted.1.2 cap) else none

end Workload

namespace Assembler

def warnAll (assembler : Assembler) (warnings : List WorkloadWarning) : Assembler :=
  { assembler with warnings := assembler.warnings ++ warnings }

theorem warn_all_nil (assembler : Assembler) : assembler.warnAll [] = assembler := by
  unfold warnAll
  rw [List.append_nil]

theorem warn_all_append (assembler : Assembler) (first second : List WorkloadWarning) :
    (assembler.warnAll first).warnAll second = assembler.warnAll (first ++ second) := by
  unfold warnAll
  rw [List.append_assoc]

theorem check_week_eq (workload : Workload) (assembler : Assembler) (counted : String × Int) :
    checkWeek workload assembler counted = assembler.warnAll (workload.weekWarning? counted).toList := by
  unfold checkWeek Workload.weekWarning?
  cases Entries.get? counted.1 workload.teachers with
  | none => exact assembler.warn_all_nil.symm
  | some teacher =>
      dsimp only [Option.bind_eq_bind, Option.bind]
      unfold weeklyWarning
      split
      · rfl
      · exact assembler.warn_all_nil.symm

theorem check_subject_eq (workload : Workload) (assembler : Assembler) (counted : (String × String) × Int) :
    checkSubject workload assembler counted =
      assembler.warnAll (workload.subjectWarning? assembler.caps counted).toList := by
  unfold checkSubject Workload.subjectWarning?
  cases Entries.get? counted.1.1 workload.teachers with
  | none => exact assembler.warn_all_nil.symm
  | some teacher =>
      cases Entries.get? counted.1 assembler.caps with
      | none => exact assembler.warn_all_nil.symm
      | some cap =>
          dsimp only [Option.bind_eq_bind, Option.bind]
          split
          · rfl
          · exact assembler.warn_all_nil.symm

/-- Checks that each append a warning or nothing append the warnings there are. -/
theorem fold_checks {Counted : Type} {check : Assembler → Counted → Assembler}
    (caps : List ((String × String) × Int)) {warning? : Counted → Option WorkloadWarning}
    (step : ∀ assembler counted, assembler.caps = caps →
      check assembler counted = assembler.warnAll (warning? counted).toList)
    (counts : List Counted) (assembler : Assembler) (capped : assembler.caps = caps) :
    counts.foldl check assembler = assembler.warnAll (counts.filterMap warning?) := by
  induction counts generalizing assembler with
  | nil => exact assembler.warn_all_nil.symm
  | cons counted rest ih =>
      have others := ih (assembler.warnAll (warning? counted).toList) capped
      rw [List.foldl_cons, step assembler counted capped, others, warn_all_append]
      cases warned : warning? counted with
      | none =>
          rw [List.filterMap_cons_none warned]
          rfl
      | some warning =>
          rw [List.filterMap_cons_some warned]
          rfl

/-- The checks append what look-ups among the counted teachers and the noted caps warn of. -/
theorem check_workload_eq (assembler : Assembler) (lessons : List Lesson) :
    assembler.checkWorkload lessons = assembler.warnAll (warningsBy (Entries.get? · (teachersById lessons))
      (fun teacher subject => Entries.get? (teacher, subject) assembler.caps) lessons) := by
  unfold checkWorkload
  dsimp only
  rw [fold_checks assembler.caps (fun other counted _ => check_week_eq _ other counted) _ _ rfl,
    fold_checks assembler.caps (fun other counted capped => capped ▸ check_subject_eq _ other counted) _
      (assembler.warnAll _) rfl,
    warn_all_append, Workload.of_lessons_eq]
  rfl

def statedCaps (records : List Qualification) : List ((String × String) × Int) :=
  records.filterMap fun record => record.maxHours.map fun cap => ((record.teacher, record.subject), cap)

theorem fold_note_cap (records : List Qualification) (caps : List ((String × String) × Int)) :
    records.foldl noteCap caps =
      (statedCaps records).foldl (fun kept entry => Entries.put entry.1 entry.2 kept) caps := by
  induction records generalizing caps with
  | nil => rfl
  | cons record rest ih =>
      rw [List.foldl_cons, ih]
      unfold statedCaps noteCap
      cases capped : record.maxHours with
      | none => rw [List.filterMap_cons_none (by rw [capped]; rfl)]
      | some cap =>
          rw [List.filterMap_cons_some (by rw [capped]; rfl)]
          rfl

theorem noted_caps_eq (records : List Qualification) :
    records.foldl noteCap [] = Entries.ofList (statedCaps records) :=
  fold_note_cap records []

theorem note_caps_again (records : List Qualification) :
    records.foldl noteCap (records.foldl noteCap []) = records.foldl noteCap [] := by
  rw [noted_caps_eq, fold_note_cap, Entries.put_again]

theorem get_noted_cap (problem : Problem) (teacher subject : String) :
    Entries.get? (teacher, subject) (problem.qualifications.foldl noteCap []) =
      problem.subjectCap? teacher subject := by
  rw [noted_caps_eq, Entries.get_of_list, ← List.getLast?_map]
  unfold subjectCap? statedCaps
  rw [List.filter_filterMap, List.map_filterMap, List.filterMap_filter]
  congr 1
  refine List.filterMap_congr fun record _ => ?_
  cases record.maxHours <;> by_cases own : record.teacher = teacher ∧ record.subject = subject <;> simp [own]

@[simp]
theorem note_caps_problem (assembler : Assembler) : assembler.noteCaps.problem = assembler.problem := rfl

@[simp]
theorem note_caps_config (assembler : Assembler) : assembler.noteCaps.config = assembler.config := rfl

/-- A pass that ends with a timetable has checked the lessons of a snapshot without faults. -/
theorem assemble_run (assembler : Assembler) : assemble.run assembler =
    match assembler.problem.assemblyFaults
        (assembler.problem.lessonOutcomes assembler.config.allowUnresourced) with
    | [] =>
        let lessons := assembledLessons (assembler.problem.lessonOutcomes assembler.config.allowUnresourced)
        .ok (assembler.problem.timetableOf lessons)
          ({ assembler with warnings := [] }.noteCaps.checkWorkload lessons)
    | faults => .error faults { assembler with warnings := [] }.noteCaps := by
  unfold assemble
  simp only [EStateM.run_bind, EStateM.run_modify, EStateM.run_get, note_caps_problem, note_caps_config]
  cases assembler.problem.assemblyFaults
    (assembler.problem.lessonOutcomes assembler.config.allowUnresourced) with
  | nil => rfl
  | cons fault others => rfl

/-- A pass that has all caps noted at its end leaves nothing of what was kept before it. -/
theorem assemble_of_noted {document : Json} {problem : Problem} (config : Config)
    (warnings : List WorkloadWarning) (caps : List ((String × String) × Int))
    (accepted : Problem.read document = .ok problem)
    (faultless : problem.assemblyFaults (problem.lessonOutcomes config.allowUnresourced) = [])
    (noted : problem.qualifications.foldl noteCap caps = problem.qualifications.foldl noteCap []) :
    assemble.run ⟨problem, config, warnings, caps⟩ =
      .ok (problem.timetableOf (assembledLessons (problem.lessonOutcomes config.allowUnresourced)))
        ⟨problem, config,
          problem.workloadWarnings (assembledLessons (problem.lessonOutcomes config.allowUnresourced)),
          problem.qualifications.foldl noteCap []⟩ := by
  have known : KnownById (assembledLessons (problem.lessonOutcomes config.allowUnresourced)) :=
    known_of_assembled accepted (assemble_of_faultless faultless)
  have caps? : (fun teacher subject => Entries.get? (teacher, subject)
      (problem.qualifications.foldl noteCap [])) = problem.subjectCap? := by
    funext teacher subject
    exact get_noted_cap problem teacher subject
  rw [assemble_run]
  dsimp only
  rw [faultless]
  dsimp only
  rw [check_workload_eq]
  unfold noteCaps warnAll
  dsimp only
  rw [noted, caps?, List.nil_append, ← workload_warnings_eq known]

end Assembler

/-- The warnings of a pass are those of just the teachers, and teachers in subjects, with more fixed hours than
their limit, in the order of their first fixed lessons. They are those that assembly gives, and another pass
leaves them as they are. -/
theorem workload_warnings_are_exact {document : Json} {problem : Problem} {config : Config} {timetable : Timetable}
    {after : Assembler} (accepted : Problem.read document = .ok problem)
    (assembled : Assembler.assemble.run (.ofProblem problem config) = .ok timetable after) :
    problem.assemble config = .ok (timetable, after.warnings) ∧
      problem.WarnsExactly timetable.lessons after.warnings ∧
      Assembler.assemble.run after = .ok timetable after := by
  have faultless : problem.assemblyFaults (problem.lessonOutcomes config.allowUnresourced) = [] := by
    rw [Assembler.assemble_run] at assembled
    dsimp only [Assembler.ofProblem] at assembled
    split at assembled
    · assumption
    · cases assembled
  have once := Assembler.assemble_of_noted config [] [] accepted faultless rfl
  obtain ⟨rfl, rfl⟩ := EStateM.Result.ok.inj (assembled.symm.trans once)
  have ends := assemble_of_faultless faultless
  refine ⟨ends, ?_, ?_⟩
  · exact warns_exactly_of_known (known_of_assembled accepted ends)
  · exact Assembler.assemble_of_noted config _ _ accepted faultless (Assembler.note_caps_again _)

namespace Problem

/-- A term with an hour and a half of mathematics for Meier, where one is allowed, and just the hour of art for
Huber that is allowed. The cap on mathematics is stated by the second of three records. -/
def overloadedTerm : Problem where
  term := "T"
  slots := [⟨"first", 0, 1, none, none, false⟩]
  rooms := [⟨"hall", none, none, [], true⟩]
  subjects := [⟨"math", "Mathematics", none⟩, ⟨"art", "Art", none⟩]
  classes := [⟨"5a", "5a", 5, none, none, true⟩, ⟨"5b", "5b", 5, none, none, true⟩,
    ⟨"5c", "5c", 5, none, none, true⟩]
  teachers := [⟨"meier", "Meier", none, 1, true⟩, ⟨"huber", "Huber", none, 1, true⟩]
  qualifications :=
    [⟨"meier", "math", .primary, some [5], some 2⟩, ⟨"meier", "math", .primary, some [5], some 1⟩,
      ⟨"meier", "math", .primary, some [5], none⟩, ⟨"huber", "art", .primary, some [5], some 1⟩]
  availabilities := []
  requirements :=
    [⟨some "r1", "5c", "art", 1, .every, []⟩, ⟨some "r2", "5a", "math", 1, .every, []⟩,
      ⟨some "r3", "5b", "math", 1, .a, []⟩]

theorem overloaded_term_read : read overloadedTerm.write = .ok overloadedTerm := by decide +kernel

theorem overloaded_term_warnings :
    overloadedTerm.assemblyFaults (overloadedTerm.lessonOutcomes false) = [] ∧
      overloadedTerm.workloadWarnings (assembledLessons (overloadedTerm.lessonOutcomes false)) =
        [.weekly "Meier" 3 1, .ofSubject "Meier" 3 "math" 1] := by
  decide +kernel

theorem overloaded_term_is_warned_of : read overloadedTerm.write = .ok overloadedTerm ∧
    ∃ timetable after, Assembler.assemble.run (.ofProblem overloadedTerm .standard) = .ok timetable after ∧
      after.warnings = [.weekly "Meier" 3 1, .ofSubject "Meier" 3 "math" 1] ∧
      overloadedTerm.WarnsExactly timetable.lessons after.warnings ∧
      Assembler.assemble.run after = .ok timetable after := by
  have assembled := Assembler.assemble_of_noted .standard [] [] overloaded_term_read overloaded_term_warnings.1 rfl
  obtain ⟨-, exact, again⟩ := workload_warnings_are_exact overloaded_term_read assembled
  exact ⟨overloaded_term_read, _, _, assembled, overloaded_term_warnings.2, exact, again⟩

end Problem

end SchoolTimetable
