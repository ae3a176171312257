import SchoolTimetable.Proofs.Problem.CatalogDocuments
import SchoolTimetable.Proofs.Solution.Fulfilment
import SchoolTimetable.Proofs.Solution.Partition
import SchoolTimetable.Proofs.Solution.ScoreAccounts

/-!
Solution documents, written and read again. A record of plain fields is always read as itself, and so is a
mapping whose keys are distinct and can be read from their texts. The views of a timetable are grouped by
key, so all their mappings are of that kind, and a solution is read back as it was written.
-/

namespace SchoolTimetable

open Record

namespace Record

/-- Entries that a mapping keeps apart: no key occurs twice, and each is read from its text. -/
structure KeepsApart {Key Value : Type} (readKey : Reader Key) (writeKey : Key → String)
    (entries : List (Key × Value)) : Prop where
  distinct : (Entries.keys entries).Nodup
  legible : ∀ key ∈ Entries.keys entries, readKey (.str (writeKey key)) = .ok key

theorem keeps_apart_texts {Value : Type} {entries : List (String × Value)}
    (distinct : (Entries.keys entries).Nodup) : KeepsApart text id entries :=
  ⟨distinct, fun _ _ => rfl⟩

theorem mapping_of_written {Key Value : Type} [DecidableEq Key] {readKey : Reader Key}
    {writeKey : Key → String} {read : Reader Value} {write : Value → Json} {entries : List (Key × Value)}
    (apart : KeepsApart readKey writeKey entries)
    (returns : ∀ entry ∈ entries, read (write entry.2) = .ok entry.2) :
    mappingOf readKey read (.mapping writeKey write entries) = .ok entries := by
  have outcomes : (entries.map fun entry => (writeKey entry.1, write entry.2)).map (fun entry =>
        (((readKey (.str entry.1)).within (.field "[key]")).both (read entry.2)).within (.field entry.1)) =
      entries.map .ok := by
    rw [List.map_map, List.map_inj_left]
    intro entry listed
    apply Checked.within_ok.2
    apply Checked.both_ok.2
    exact ⟨Checked.within_ok.2 (apart.legible _ (List.mem_map_of_mem listed)), returns entry listed⟩
  exact Checked.map_ok.2 ⟨entries, Checked.all_ok.2 outcomes, Entries.of_list_of_nodup apart.distinct⟩

theorem nullable_text_of_written (value : Option String) :
    nullable text (.ofOption .str value) = .ok value := by
  cases value <;> rfl

theorem text_list_of_written (values : List String) : textList (.list .str values) = .ok values :=
  list_of_written.2 fun _ _ => rfl

theorem solution_status_of_written (status : SolutionStatus) :
    solutionStatus (.str status.text) = .ok status := by
  cases status <;> decide

end Record

theorem LessonRecord.read_of_written (record : LessonRecord) : read record.write = .ok record := by
  have term : (Form.either "termId" "term_id" text).Reads record.write.fields record.term :=
    .required rfl rfl
  have lesson : (Form.either "lessonId" "lesson_id" text).Reads record.write.fields record.lesson :=
    .required rfl rfl
  have schoolClass : (Form.either "schoolClassId" "school_class_id" text).Reads record.write.fields
      record.schoolClass :=
    .required rfl rfl
  have subject : (Form.either "subjectId" "subject_id" text).Reads record.write.fields record.subject :=
    .required rfl rfl
  have teacher : (Form.either "teacherId" "teacher_id" (nullable text)).Reads record.write.fields
      record.teacher :=
    .required (nullable_text_of_written _) rfl
  have slot : (Form.either "timeSlotId" "time_slot_id" text).Reads record.write.fields record.slot :=
    .required rfl rfl
  have day : (Form.either "dayOfWeek" "day_of_week" whole).Reads record.write.fields record.day :=
    .required rfl rfl
  have period : (Form.required "period" whole).Reads record.write.fields record.period :=
    .required rfl rfl
  have room : (Form.either "roomId" "room_id" (nullable text)).Reads record.write.fields record.room :=
    .required (nullable_text_of_written _) rfl
  have pattern : (Form.either "weekPattern" "week_pattern" weekPattern).Reads record.write.fields
      record.pattern :=
    .required (week_pattern_of_written _) rfl
  have className : (Form.eitherOr "schoolClassName" "school_class_name" none (nullable text)).Reads
      record.write.fields record.className :=
    .optional (nullable_text_of_written _) rfl
  have subjectName : (Form.eitherOr "subjectName" "subject_name" none (nullable text)).Reads
      record.write.fields record.subjectName :=
    .optional (nullable_text_of_written _) rfl
  have teacherName : (Form.eitherOr "teacherName" "teacher_name" none (nullable text)).Reads
      record.write.fields record.teacherName :=
    .optional (nullable_text_of_written _) rfl
  have roomName : (Form.eitherOr "roomName" "room_name" none (nullable text)).Reads
      record.write.fields record.roomName :=
    .optional (nullable_text_of_written _) rfl
  have entities := ((((term.map LessonRecord.mk).seq lesson).seq schoolClass).seq subject).seq teacher
  have places := ((((entities.seq slot).seq day).seq period).seq room).seq pattern
  exact (((places.seq className).seq subjectName).seq teacherName).seq roomName

theorem Violation.read_of_written (violation : Violation) : read violation.write = .ok violation := by
  have constraint : (Form.either "constraintName" "constraint_name" text).Reads violation.write.fields
      violation.constraint :=
    .required rfl rfl
  have hard : (Form.required "hard" truth).Reads violation.write.fields violation.hard :=
    .required rfl rfl
  have score : (Form.required "score" text).Reads violation.write.fields violation.score :=
    .required rfl rfl
  have lessons : (Form.either "affectedLessonIds" "affected_lesson_ids" textList).Reads
      violation.write.fields violation.lessons :=
    .required (text_list_of_written _) rfl
  exact (((constraint.map Violation.mk).seq hard).seq score).seq lessons

theorem ScoreSummary.read_of_written {summary : ScoreSummary}
    (distinct : (Entries.keys summary.constraints).Nodup) : read summary.write = .ok summary := by
  have hard : (Form.either "hardScore" "hard_score" whole).Reads summary.write.fields summary.hard :=
    .required rfl rfl
  have soft : (Form.either "softScore" "soft_score" whole).Reads summary.write.fields summary.soft :=
    .required rfl rfl
  have satisfied : (Form.either "hardConstraintsSatisfied" "hard_constraints_satisfied" truth).Reads
      summary.write.fields summary.satisfied :=
    .required rfl rfl
  have constraints : (Form.eitherOr "constraintScores" "constraint_scores" [] (mappingOf text whole)).Reads
      summary.write.fields summary.constraints :=
    .optional (mapping_of_written (keeps_apart_texts distinct) fun _ _ => rfl) rfl
  exact (((hard.map ScoreSummary.mk).seq soft).seq satisfied).seq constraints

theorem lessons_of_written (records : List LessonRecord) :
    listOf LessonRecord.read (.list LessonRecord.write records) = .ok records :=
  list_of_written.2 fun record _ => record.read_of_written

theorem DaySchedule.read_of_written (schedule : DaySchedule) : read schedule.write = .ok schedule := by
  have day : (Form.required "day" whole).Reads schedule.write.fields schedule.day := .required rfl rfl
  have dayName : (Form.either "dayName" "day_name" text).Reads schedule.write.fields schedule.dayName :=
    .required rfl rfl
  have lessons : (Form.required "lessons" (listOf LessonRecord.read)).Reads schedule.write.fields
      schedule.lessons :=
    .required (lessons_of_written _) rfl
  exact ((day.map DaySchedule.mk).seq dayName).seq lessons

theorem EntitySchedule.read_of_written {schedule : EntitySchedule}
    (apart : KeepsApart whole toString schedule.byDay) : read schedule.write = .ok schedule := by
  have id : (Form.required "id" text).Reads schedule.write.fields schedule.id := .required rfl rfl
  have name : (Form.required "name" text).Reads schedule.write.fields schedule.name := .required rfl rfl
  have lessons : (Form.required "lessons" (listOf LessonRecord.read)).Reads schedule.write.fields
      schedule.lessons :=
    .required (lessons_of_written _) rfl
  have byDay : (Form.eitherOr "byDay" "by_day" [] (mappingOf whole (listOf LessonRecord.read))).Reads
      schedule.write.fields schedule.byDay :=
    .optional (mapping_of_written apart fun entry _ => lessons_of_written entry.2) rfl
  exact (((id.map EntitySchedule.mk).seq name).seq lessons).seq byDay

structure SchedulesKeptApart (schedules : List (String × EntitySchedule)) : Prop where
  distinct : (Entries.keys schedules).Nodup
  days : ∀ entry ∈ schedules, KeepsApart whole toString entry.2.byDay

theorem SchedulesKeptApart.of_written {schedules : List (String × EntitySchedule)}
    (apart : SchedulesKeptApart schedules) :
    mappingOf text EntitySchedule.read (.mapping id EntitySchedule.write schedules) = .ok schedules :=
  mapping_of_written (keeps_apart_texts apart.distinct) fun entry listed =>
    EntitySchedule.read_of_written (apart.days entry listed)

structure Views.AreKeptApart (views : Views) : Prop where
  classes : SchedulesKeptApart views.byClass
  teachers : SchedulesKeptApart views.byTeacher
  rooms : SchedulesKeptApart views.byRoom
  days : KeepsApart whole toString views.byDay

theorem Views.read_of_written {views : Views} (apart : views.AreKeptApart) : read views.write = .ok views := by
  have byClass : (Form.eitherOr "byClass" "by_class" [] (mappingOf text EntitySchedule.read)).Reads
      views.write.fields views.byClass :=
    .optional apart.classes.of_written rfl
  have byTeacher : (Form.eitherOr "byTeacher" "by_teacher" [] (mappingOf text EntitySchedule.read)).Reads
      views.write.fields views.byTeacher :=
    .optional apart.teachers.of_written rfl
  have byRoom : (Form.eitherOr "byRoom" "by_room" [] (mappingOf text EntitySchedule.read)).Reads
      views.write.fields views.byRoom :=
    .optional apart.rooms.of_written rfl
  have byDay : (Form.eitherOr "byDay" "by_day" [] (mappingOf whole DaySchedule.read)).Reads
      views.write.fields views.byDay :=
    .optional (mapping_of_written apart.days fun entry _ => entry.2.read_of_written) rfl
  exact (((byClass.map Views.mk).seq byTeacher).seq byRoom).seq byDay

theorem Solution.read_of_written {solution : Solution}
    (shares : (Entries.keys solution.score.constraints).Nodup) (views : solution.views.AreKeptApart) :
    read solution.write = .ok solution := by
  have term : (Form.either "termId" "term_id" Record.text).Reads solution.write.fields solution.term :=
    .required rfl rfl
  have status : (Form.required "status" solutionStatus).Reads solution.write.fields solution.status :=
    .required (solution_status_of_written _) rfl
  have reason : (Form.eitherOr "terminationReason" "termination_reason" none (nullable Record.text)).Reads
      solution.write.fields solution.reason :=
    .optional (nullable_text_of_written _) rfl
  have seconds : (Form.either "solveTimeSeconds" "solve_time_seconds" number).Reads
      solution.write.fields solution.seconds :=
    .required rfl rfl
  have moves : (Form.eitherOr "movesEvaluated" "moves_evaluated" 0 whole).Reads solution.write.fields
      solution.moves :=
    .optional rfl rfl
  have score : (Form.required "score" ScoreSummary.read).Reads solution.write.fields solution.score :=
    .required (ScoreSummary.read_of_written shares) rfl
  have lessons : (Form.required "lessons" (listOf LessonRecord.read)).Reads solution.write.fields
      solution.lessons :=
    .required (lessons_of_written _) rfl
  have violations : (Form.optional "violations" [] (listOf Violation.read)).Reads solution.write.fields
      solution.violations :=
    .optional (list_of_written.2 fun violation _ => violation.read_of_written) rfl
  have views : (Form.optional "views" .empty Views.read).Reads solution.write.fields solution.views :=
    .optional (Views.read_of_written views) rfl
  have head := (((term.map Solution.mk).seq status).seq reason).seq seconds
  exact ((((head.seq moves).seq score).seq lessons).seq violations).seq views

section Built

open LessonRecord

theorem keys_sort_by_key {Key Value : Type} (atMost : Key → Key → Bool) (entries : List (Key × Value)) :
    (Entries.keys (Entries.sortByKey atMost entries)).Perm (Entries.keys entries) :=
  (List.mergeSort_perm _ _).map _

/-- A day whose numeral is not longer than a numeral that is read may be. -/
def LessonRecord.HasLegibleDay (record : LessonRecord) : Prop :=
  (toString record.day).length ≤ longestNumeral

theorem days_kept_apart {records : List LessonRecord} (legible : ∀ record ∈ records, record.HasLegibleDay) :
    KeepsApart whole toString (byDay records) := by
  refine ⟨Entries.nodup_keys_group _ _, ?_⟩
  intro day listed
  obtain ⟨⟨_, members⟩, grouped, rfl⟩ := List.mem_map.1 listed
  obtain ⟨rfl, some⟩ := (Entries.mem_group_iff _ _ _ _).1 grouped
  obtain ⟨record, member⟩ := List.exists_mem_of_ne_nil _ some
  obtain ⟨known, sameDay⟩ := List.mem_filter.1 member
  obtain rfl := of_decide_eq_true sameDay
  exact whole_of_key _ (legible record known)

theorem entity_schedules_kept_apart {names : List (String × String)}
    {groups : List (String × List LessonRecord)} (distinct : (Entries.keys groups).Nodup)
    (legible : ∀ group ∈ groups, ∀ record ∈ group.2, record.HasLegibleDay) :
    SchedulesKeptApart (entitySchedules names groups) := by
  have sorted := keys_sort_by_key (fun first second => decide (first ≤ second)) groups
  constructor
  · unfold Entries.keys at sorted ⊢
    unfold entitySchedules
    rw [List.map_map]
    exact sorted.nodup_iff.2 distinct
  · intro entry listed
    obtain ⟨group, member, rfl⟩ := List.mem_map.1 listed
    exact days_kept_apart (legible group ((List.mergeSort_perm _ _).mem_iff.1 member))

theorem Timetable.views_kept_apart (timetable : Timetable) {records : List LessonRecord}
    (legible : ∀ record ∈ records, record.HasLegibleDay) : (timetable.views records).AreKeptApart := by
  have ofSome : ∀ key? : LessonRecord → Option String, ∀ names,
      SchedulesKeptApart (entitySchedules names (groupBy? key? records)) := by
    intro key? names
    have grouped := groups_of_group_some key? records
    apply entity_schedules_kept_apart grouped.distinct
    rintro ⟨_, members⟩ known record listed
    exact legible record (grouped.mem_of_member known listed)
  refine ⟨?_, ofSome _ _, ofSome _ _, ?_⟩
  · have grouped := Entries.groups_of_group (·.schoolClass) records
    apply entity_schedules_kept_apart grouped.distinct
    rintro ⟨_, members⟩ known record listed
    exact legible record (grouped.mem_of_member known listed)
  · have days := days_kept_apart legible
    have sorted := keys_sort_by_key (fun first second : Int => decide (first ≤ second)) (byDay records)
    have keys : (Entries.keys (daySchedules (byDay records))).Perm (Entries.keys (byDay records)) := by
      unfold Entries.keys at sorted ⊢
      unfold daySchedules
      rw [List.map_map]
      exact sorted
    exact ⟨keys.nodup_iff.2 days.distinct, fun day listed => days.legible day (keys.mem_iff.1 listed)⟩

/-- A solution is read from its document as it is, whatever timetable it was extracted from. -/
theorem SolveResult.solution_of_written {result : SolveResult} {config : Config} {solution : Solution}
    (extracted : result.solution config = .ok solution)
    (legible : ∀ record ∈ solution.lessons, record.HasLegibleDay) :
    Solution.read solution.write = .ok solution := by
  obtain ⟨records, violations, -, -, rfl⟩ := solution_ok extracted
  have named := shares_named (explainScore config.weights result.timetable.lessons)
  rw [explain_score_eq, List.map_map] at named
  exact Solution.read_of_written (named.nodup Constraint.names_nodup)
    (result.timetable.views_kept_apart legible)

theorem SolveResult.lesson_of_record {result : SolveResult} {config : Config} {solution : Solution}
    (extracted : result.solution config = .ok solution) {record : LessonRecord}
    (listed : record ∈ solution.lessons) :
    ∃ lesson ∈ result.timetable.lessons, ∃ slot, lesson.slot = some slot ∧
      lesson.recordAt result.timetable.term slot = record := by
  obtain ⟨records, violations, recorded, -, rfl⟩ := solution_ok extracted
  unfold Timetable.records at recorded
  split at recorded
  · obtain rfl := Except.ok.inj recorded
    exact mem_records_of.1 listed
  · cases recorded

theorem LessonRecord.legible_of_weekday {record : LessonRecord} (early : 0 ≤ record.day)
    (late : record.day ≤ 4) : record.HasLegibleDay := by
  unfold HasLegibleDay
  generalize record.day = day at early late ⊢
  interval_cases day <;> decide

end Built

namespace Solver

variable {Source : Type} [RandomSource Source] {document : Json} {problem : Problem}
  {settings config : Config} {timetable : Timetable} {warnings : List WorkloadWarning}
  {placer : ExactPlacer} {clock : Clock} {source : Source} {scores : List Score}
  {solver : Solver Source} {result : SolveResult} {solution : Solution}

/-- Whatever is reported of an accepted snapshot, its records are on days of the working week. -/
theorem Run.legible (accepted : Problem.read document = .ok problem)
    (assembled : problem.assemble settings = .ok (timetable, warnings))
    (run : Run (ofTimetableWith placer timetable config clock source) scores solver)
    (reports : solver.Reports result) {extraction : Config}
    (extracted : result.solution extraction = .ok solution) :
    ∀ record ∈ solution.lessons, record.HasLegibleDay := by
  have completable : ∀ lesson ∈ timetable.lessons, lesson.Completable timetable.slots :=
    fun lesson listed => (Problem.completable_of_mem_assembled assembled listed).1
  obtain ⟨constructed, log, best, listed, copy, -⟩ := run.accounts.of_reports reports
  have inRange := (run.keepsRanges completable).published best listed
  have within := reported_places_within log listed inRange
  rw [← copy] at within
  intro record recorded
  obtain ⟨lesson, member, slot, seated, rfl⟩ := SolveResult.lesson_of_record extracted recorded
  obtain ⟨known, inSlots, same⟩ := (within.inRange lesson member).slot
  obtain rfl := Option.some.inj (seated.symm.trans same)
  rw [within.slots, (Problem.assemble_ok assembled).1] at inSlots
  obtain ⟨entry, known, -, rfl⟩ := Problem.mem_build_slots inSlots
  obtain ⟨entries, fields⟩ := Problem.fields_of_read accepted
  obtain ⟨low, high⟩ := (Problem.grid_of_form fields known).day
  exact LessonRecord.legible_of_weekday low high

/-- A solution is read back from its document as it was. This holds of any result whose days have numerals
that can be read, and so of all that a solve of an accepted snapshot reports or ends with. -/
theorem solutions_are_read_back (placer : ExactPlacer) (timetable : Timetable) (config : Config)
    (clock : Clock) (source : Source) :
    (∀ result : SolveResult, ∀ extraction solution, result.solution extraction = .ok solution →
      (∀ record ∈ solution.lessons, record.HasLegibleDay) →
        Solution.read solution.write = .ok solution) ∧
    ∀ document problem settings warnings, Problem.read document = .ok problem →
      problem.assemble settings = .ok (timetable, warnings) →
        (∀ scores solver result extraction solution,
          Run (ofTimetableWith placer timetable config clock source) scores solver →
            solver.Reports result → result.solution extraction = .ok solution →
              Solution.read solution.write = .ok solution) ∧
        ∀ result ended extraction solution,
          solve.run (ofTimetableWith placer timetable config clock source) = .ok result ended →
            result.solution extraction = .ok solution →
              Solution.read solution.write = .ok solution := by
  refine ⟨fun _ _ _ => SolveResult.solution_of_written, ?_⟩
  intro document problem settings warnings accepted assembled
  have ofReport : ∀ scores solver result extraction solution,
      Run (ofTimetableWith placer timetable config clock source) scores solver →
        solver.Reports result → result.solution extraction = .ok solution →
          Solution.read solution.write = .ok solution := by
    intro scores solver result extraction solution run reports extracted
    exact SolveResult.solution_of_written extracted
      (run.legible accepted assembled reports extracted)
  refine ⟨ofReport, ?_⟩
  intro result ended extraction solution solved extracted
  obtain ⟨terminated, scores, run⟩ := run_of_solve solved
  exact ofReport scores ended result extraction solution run (.inl terminated) extracted

end Solver

namespace MusicMorning

open Solver

/-- The document of what was constructed, with its four records and four violations, and the last one. -/
theorem documents_are_read_back : ∃ warnings scores opens opensDocument delivered ended document,
    Problem.read problem.write = .ok problem ∧ problem.assemble config = .ok (timetable, warnings) ∧
    Run (start config) scores ((start config).after [.step]) ∧ ((start config).after [.step]).Reports opens ∧
    opens.solution config = .ok opensDocument ∧ opensDocument.lessons.length = 4 ∧
    opensDocument.violations = openingViolations ∧ (∀ record ∈ opensDocument.lessons, record.HasLegibleDay) ∧
    Solution.read opensDocument.write = .ok opensDocument ∧
    solve.run (start config) = .ok delivered ended ∧ delivered.solution config = .ok document ∧
    Solution.read document.write = .ok document := by
  obtain ⟨warnings, assembled⟩ := config_assembles
  obtain ⟨readBack, ofSample⟩ := solutions_are_read_back PlacementModel.placer timetable config .still draws
  obtain ⟨-, ofSolve⟩ := ofSample problem.write problem config warnings document_read assembled
  obtain ⟨scores, opens, opensDocument, run, reports, -, -, extracted, four, own⟩ := opening_documented
  have legible := run.legible document_read assembled reports extracted
  obtain ⟨delivered, solved, terminated, -⟩ := solves
  obtain ⟨others, toItsEnd⟩ := run_after config toEnd
  obtain ⟨document, extractedLast⟩ := documented toItsEnd (.inl terminated)
  exact ⟨warnings, scores, opens, opensDocument, delivered, _, document, document_read, assembled, run, reports,
    extracted, four, own, legible, readBack opens config opensDocument extracted legible, solved, extractedLast,
    ofSolve _ _ _ _ solved extractedLast⟩

end MusicMorning

end SchoolTimetable
