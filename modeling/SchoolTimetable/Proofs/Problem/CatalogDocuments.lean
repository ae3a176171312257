import SchoolTimetable.Proofs.Problem.Validity
import SchoolTimetable.Proofs.Record.Numerals

/-!
Catalog entries and the records that relate them, written and read again. Each is read as itself, and a form
that accepts an entry accepts what the entry is written as, with all that was left to a default filled in.
-/

namespace SchoolTimetable

open Record

namespace Record

theorem mirrored_text_list (values : List String) : Mirrored textList (.list .str) values :=
  mirrored_list fun value _ => mirrored_text value

theorem week_pattern_of_written (value : WeekPattern) : weekPattern (.str value.text) = .ok value := by
  cases value <;> decide

theorem mirrored_week_pattern (value : WeekPattern) : Mirrored weekPattern (.str ·.text) value :=
  mirrored_of_returns (week_pattern_of_written value)

theorem mirrored_availability_kind (value : AvailabilityKind) :
    Mirrored availabilityKind (.str ·.text) value := by
  apply mirrored_of_returns
  cases value <;> decide

theorem mirrored_qualification_level (value : QualificationLevel) :
    Mirrored qualificationLevel (.str ·.text) value := by
  apply mirrored_of_returns
  cases value <;> decide

theorem mirrored_grades (value : Option (List Int)) :
    Mirrored (nullable (listOf whole)) (.ofOption (.list .int)) value :=
  mirrored_nullable (fun _ _ => Json.noConfusion) fun _ _ => mirrored_list fun grade _ => mirrored_whole grade

end Record

/-- A time that documents write without a zone or with the letter for universal time. -/
def ClockTime.IsPlain (time : ClockTime) : Prop := time.zone = none ∨ time.zone = some 0

namespace SlotEntry

def HasPlainTimes (entry : SlotEntry) : Prop :=
  (∀ time ∈ entry.start, time.IsPlain) ∧ ∀ time ∈ entry.finish, time.IsPlain

theorem mirrored_nullable_time {time : Option ClockTime} (plain : ∀ held ∈ time, held.IsPlain) :
    Mirrored (nullable clockTime) (.ofOption (.str ·.documentText)) time :=
  mirrored_nullable (fun _ _ => Json.noConfusion) fun held set => mirrored_clock_time held (plain held set)

theorem id_written (entry : SlotEntry) :
    (Form.optional "id" none (nullable text)).read entry.write.fields = .ok (some entry.id) := by
  have written : Entries.get? "id" entry.write.fields = some (.str entry.id) := rfl
  exact (Form.optional_as_written written).2 rfl

theorem mirrored {entry : SlotEntry} (plain : entry.HasPlainTimes) : Mirrored read write entry := by
  have id : (Form.optional "id" none (nullable text)).Echoes entry.write.fields (some entry.id) :=
    .optional (mirrored_nullable_text (some entry.id)) rfl rfl
  have day : (Form.required "day_of_week" dayIndex).Echoes entry.write.fields entry.day :=
    .required (mirrored_whole_between 0 4 _) rfl
  have period : (Form.required "period" periodNumber).Echoes entry.write.fields entry.period :=
    .required (mirrored_whole_between 1 16 _) rfl
  have start : (Form.optional "start_time" none (nullable clockTime)).Echoes entry.write.fields
      entry.start :=
    .optional (mirrored_nullable_time plain.1) rfl rfl
  have finish : (Form.optional "end_time" none (nullable clockTime)).Echoes entry.write.fields
      entry.finish :=
    .optional (mirrored_nullable_time plain.2) rfl rfl
  have isBreak : (Form.optional "is_break" false truth).Echoes entry.write.fields entry.isBreak :=
    .optional (mirrored_truth _) rfl rfl
  have parts := (((((id.map named).seq day).seq period).seq start).seq finish).seq isBreak
  have echoes : form.Echoes entry.write.fields entry := by
    refine ⟨parts.faithful, ?_⟩
    -- An entry without an id has been given one, which is written, so the parts are not what was read.
    intro entries accepted
    simp only [form, Form.seq_ok, Form.map_ok] at accepted
    obtain ⟨_, _, ⟨_, _, ⟨_, _, ⟨_, _, ⟨_, _, ⟨given, -, rfl⟩, dayRead, rfl⟩, periodRead, rfl⟩,
      startRead, rfl⟩, finishRead, rfl⟩, breakRead, rfl⟩ := accepted
    exact Form.seq_ok.2 ⟨_, _, Form.seq_ok.2 ⟨_, _, Form.seq_ok.2 ⟨_, _, Form.seq_ok.2 ⟨_, _,
      Form.seq_ok.2 ⟨_, _, Form.map_ok.2 ⟨_, id_written _, rfl⟩, day.settled dayRead, rfl⟩,
      period.settled periodRead, rfl⟩, start.settled startRead, rfl⟩, finish.settled finishRead, rfl⟩,
      isBreak.settled breakRead, rfl⟩
  exact (Form.mirrored_closed echoes rfl (by decide) rfl).and_then ordered_passes

end SlotEntry

theorem RoomEntry.mirrored (entry : RoomEntry) : Mirrored read write entry := by
  have id : (Form.required "id" nonemptyText).Echoes entry.write.fields entry.id :=
    .required (mirrored_nonempty_text _) rfl
  have name : (Form.optional "name" none (nullable text)).Echoes entry.write.fields entry.name :=
    .optional (mirrored_nullable_text _) rfl rfl
  have capacity : (Form.optional "capacity" none (nullable (wholeFrom 1))).Echoes entry.write.fields
      entry.capacity :=
    .optional (mirrored_nullable_whole_from 1 _) rfl rfl
  have subjects : (Form.optional "suitable_subject_ids" [] textList).Echoes entry.write.fields
      entry.suitableSubjects :=
    .optional (mirrored_text_list _) rfl rfl
  have active : (Form.optional "active" true truth).Echoes entry.write.fields entry.active :=
    .optional (mirrored_truth _) rfl rfl
  have parts := ((((id.map RoomEntry.mk).seq name).seq capacity).seq subjects).seq active
  refine Form.mirrored_closed (parts.echoes ?_) rfl (by decide) rfl
  rintro ⟨⟨⟨⟨_, _⟩, _⟩, _⟩, _⟩ ⟨⟨⟨⟨_, _⟩, _⟩, _⟩, _⟩ ⟨⟩
  rfl

theorem SubjectEntry.mirrored (entry : SubjectEntry) : Mirrored read write entry := by
  have id : (Form.required "id" nonemptyText).Echoes entry.write.fields entry.id :=
    .required (mirrored_nonempty_text _) rfl
  have name : (Form.required "name" nonemptyText).Echoes entry.write.fields entry.name :=
    .required (mirrored_nonempty_text _) rfl
  have short : (Form.optional "abbreviation" none (nullable (shortText 10))).Echoes entry.write.fields
      entry.abbreviation :=
    .optional (mirrored_nullable_short_text 10 _) rfl rfl
  have parts := ((id.map SubjectEntry.mk).seq name).seq short
  refine Form.mirrored_closed (parts.echoes ?_) rfl (by decide) rfl
  rintro ⟨⟨_, _⟩, _⟩ ⟨⟨_, _⟩, _⟩ ⟨⟩
  rfl

theorem ClassEntry.mirrored (entry : ClassEntry) : Mirrored read write entry := by
  have id : (Form.required "id" nonemptyText).Echoes entry.write.fields entry.id :=
    .required (mirrored_nonempty_text _) rfl
  have name : (Form.required "name" nonemptyText).Echoes entry.write.fields entry.name :=
    .required (mirrored_nonempty_text _) rfl
  have grade : (Form.required "grade_level" (wholeBetween 1 13)).Echoes entry.write.fields entry.grade :=
    .required (mirrored_whole_between 1 13 _) rfl
  have students : (Form.optional "student_count" none (nullable (wholeFrom 1))).Echoes entry.write.fields
      entry.studentCount :=
    .optional (mirrored_nullable_whole_from 1 _) rfl rfl
  have teacher : (Form.optional "class_teacher_id" none (nullable text)).Echoes entry.write.fields
      entry.classTeacher :=
    .optional (mirrored_nullable_text _) rfl rfl
  have active : (Form.optional "active" true truth).Echoes entry.write.fields entry.active :=
    .optional (mirrored_truth _) rfl rfl
  have parts := (((((id.map ClassEntry.mk).seq name).seq grade).seq students).seq teacher).seq active
  refine Form.mirrored_closed (parts.echoes ?_) rfl (by decide) rfl
  rintro ⟨⟨⟨⟨⟨_, _⟩, _⟩, _⟩, _⟩, _⟩ ⟨⟨⟨⟨⟨_, _⟩, _⟩, _⟩, _⟩, _⟩ ⟨⟩
  rfl

theorem TeacherEntry.mirrored (entry : TeacherEntry) : Mirrored read write entry := by
  have id : (Form.required "id" nonemptyText).Echoes entry.write.fields entry.id :=
    .required (mirrored_nonempty_text _) rfl
  have name : (Form.required "name" nonemptyText).Echoes entry.write.fields entry.name :=
    .required (mirrored_nonempty_text _) rfl
  have short : (Form.optional "abbreviation" none (nullable (shortText 5))).Echoes entry.write.fields
      entry.abbreviation :=
    .optional (mirrored_nullable_short_text 5 _) rfl rfl
  have hours : (Form.optional "max_hours_per_week" 28 (wholeBetween 1 60)).Echoes entry.write.fields
      entry.maxHours :=
    .optional (mirrored_whole_between 1 60 _) rfl rfl
  have active : (Form.optional "active" true truth).Echoes entry.write.fields entry.active :=
    .optional (mirrored_truth _) rfl rfl
  have parts := ((((id.map TeacherEntry.mk).seq name).seq short).seq hours).seq active
  refine Form.mirrored_closed (parts.echoes ?_) rfl (by decide) rfl
  rintro ⟨⟨⟨⟨_, _⟩, _⟩, _⟩, _⟩ ⟨⟨⟨⟨_, _⟩, _⟩, _⟩, _⟩ ⟨⟩
  rfl

theorem Qualification.mirrored (record : Qualification) : Mirrored read write record := by
  have teacher : (Form.required "teacher_id" text).Echoes record.write.fields record.teacher :=
    .required (mirrored_text _) rfl
  have subject : (Form.required "subject_id" text).Echoes record.write.fields record.subject :=
    .required (mirrored_text _) rfl
  have level : (Form.optional "qualification_level" .primary qualificationLevel).Echoes record.write.fields
      record.level :=
    .optional (mirrored_qualification_level _) rfl rfl
  have grades : (Form.optional "can_teach_grades" none (nullable (listOf whole))).Echoes record.write.fields
      record.grades :=
    .optional (mirrored_grades _) rfl rfl
  have hours : (Form.optional "max_hours_per_week" none (nullable (wholeFrom 1))).Echoes record.write.fields
      record.maxHours :=
    .optional (mirrored_nullable_whole_from 1 _) rfl rfl
  have parts := ((((teacher.map Qualification.mk).seq subject).seq level).seq grades).seq hours
  refine Form.mirrored_closed (parts.echoes ?_) rfl (by decide) rfl
  rintro ⟨⟨⟨⟨_, _⟩, _⟩, _⟩, _⟩ ⟨⟨⟨⟨_, _⟩, _⟩, _⟩, _⟩ ⟨⟩
  rfl

theorem Availability.mirrored (record : Availability) : Mirrored read write record := by
  have teacher : (Form.required "teacher_id" text).Echoes record.write.fields record.teacher :=
    .required (mirrored_text _) rfl
  have term : (Form.optional "term_id" none (nullable text)).Echoes record.write.fields record.term :=
    .optional (mirrored_nullable_text _) rfl rfl
  have day : (Form.required "day_of_week" dayIndex).Echoes record.write.fields record.day :=
    .required (mirrored_whole_between 0 4 _) rfl
  have period : (Form.required "period" periodNumber).Echoes record.write.fields record.period :=
    .required (mirrored_whole_between 1 16 _) rfl
  have kind : (Form.required "availability_type" availabilityKind).Echoes record.write.fields record.kind :=
    .required (mirrored_availability_kind _) rfl
  have parts := ((((teacher.map Availability.mk).seq term).seq day).seq period).seq kind
  refine Form.mirrored_closed (parts.echoes ?_) rfl (by decide) rfl
  rintro ⟨⟨⟨⟨_, _⟩, _⟩, _⟩, _⟩ ⟨⟨⟨⟨_, _⟩, _⟩, _⟩, _⟩ ⟨⟩
  rfl

theorem Requirement.mirrored (record : Requirement) : Mirrored read write record := by
  have id : (Form.optional "id" none (nullable text)).Echoes record.write.fields record.id :=
    .optional (mirrored_nullable_text _) rfl rfl
  have schoolClass : (Form.required "school_class_id" text).Echoes record.write.fields record.schoolClass :=
    .required (mirrored_text _) rfl
  have subject : (Form.required "subject_id" text).Echoes record.write.fields record.subject :=
    .required (mirrored_text _) rfl
  have hours : (Form.required "weekly_hours" (wholeBetween 1 20)).Echoes record.write.fields
      record.weeklyHours :=
    .required (mirrored_whole_between 1 20 _) rfl
  have pattern : (Form.optional "week_pattern" .every weekPattern).Echoes record.write.fields
      record.pattern :=
    .optional (mirrored_week_pattern _) rfl rfl
  have candidates : (Form.optional "candidate_teacher_ids" [] textList).Echoes record.write.fields
      record.candidates :=
    .optional (mirrored_text_list _) rfl rfl
  have parts := (((((id.map Requirement.mk).seq schoolClass).seq subject).seq hours).seq pattern).seq candidates
  refine Form.mirrored_closed (parts.echoes ?_) rfl (by decide) rfl
  rintro ⟨⟨⟨⟨⟨_, _⟩, _⟩, _⟩, _⟩, _⟩ ⟨⟨⟨⟨⟨_, _⟩, _⟩, _⟩, _⟩, _⟩ ⟨⟩
  rfl

end SchoolTimetable
