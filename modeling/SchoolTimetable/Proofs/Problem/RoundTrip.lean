import SchoolTimetable.Proofs.Entries.Grouping
import SchoolTimetable.Proofs.Problem.CatalogDocuments
import SchoolTimetable.Proofs.Problem.Validity
import SchoolTimetable.Proofs.Text.Spelling

/-!
A snapshot is written as a document that the loader reads as the snapshot. The keys of the document have
underscores already, and each record, with all that was filled in for it, passes every check again.
-/

namespace SchoolTimetable

open Record

namespace Json

variable {Value : Type} {write : Value → Json}

def IsUnderscored (document : Json) : Prop := document.underscoreKeys = document

@[simp] theorem underscored_null : IsUnderscored .null := by
  unfold IsUnderscored underscoreKeys respellKeysWith
  rfl

@[simp] theorem underscored_bool (value : Bool) : IsUnderscored (.bool value) := by
  unfold IsUnderscored underscoreKeys respellKeysWith
  rfl

@[simp] theorem underscored_int (value : Int) : IsUnderscored (.int value) := by
  unfold IsUnderscored underscoreKeys respellKeysWith
  rfl

@[simp] theorem underscored_str (text : String) : IsUnderscored (.str text) := by
  unfold IsUnderscored underscoreKeys respellKeysWith
  rfl

@[simp] theorem underscored_option (underscored : ∀ value, IsUnderscored (write value)) (value : Option Value) :
    IsUnderscored (.ofOption write value) := by
  cases value with
  | none => exact underscored_null
  | some held => exact underscored held

@[simp] theorem underscored_list (underscored : ∀ value, IsUnderscored (write value)) (values : List Value) :
    IsUnderscored (.list write values) := by
  have items : respellItems Text.underscored (values.map write) = values.map write := by
    induction values with
    | nil => rfl
    | cons value rest ih =>
        rw [List.map_cons, respellItems, ih]
        exact congrArg (· :: _) (underscored value)
  unfold IsUnderscored underscoreKeys list respellKeysWith
  rw [items]

theorem underscored_record {fields : List (String × Json)} (names : List String)
    (named : fields.map (·.1) = names) (plain : names.all fun name => name.toList.all Text.isPlain)
    (distinct : names.Nodup) (values : ∀ field ∈ fields, field.2.IsUnderscored) :
    IsUnderscored (.obj fields) := by
  have kept : ∀ some : List (String × Json), (∀ field ∈ some, field ∈ fields) →
      respellEntries Text.underscored some = some := by
    intro some
    induction some with
    | nil => exact fun _ => rfl
    | cons field rest ih =>
        intro own
        obtain ⟨name, value⟩ := field
        have listed := own (name, value) List.mem_cons_self
        have spelledName : Text.underscored name = name :=
          Text.underscored_of_plain (List.all_eq_true.mp
            (List.all_eq_true.mp plain name (named ▸ List.mem_map_of_mem listed)))
        have settled : respellKeysWith Text.underscored value = value := values (name, value) listed
        rw [respellEntries, ih fun field later => own field (List.mem_cons_of_mem _ later), spelledName,
          settled]
  have nodup : (Entries.keys fields).Nodup := by
    unfold Entries.keys
    rw [named]
    exact distinct
  unfold IsUnderscored underscoreKeys respellKeysWith
  rw [kept fields fun _ listed => listed, Entries.of_list_of_nodup nodup]

end Json

section Records

open Json

@[simp] theorem SlotEntry.underscored (entry : SlotEntry) : entry.write.IsUnderscored := by
  apply underscored_record SlotEntry.form.names rfl (by decide) (by decide)
  simp

@[simp] theorem RoomEntry.underscored (entry : RoomEntry) : entry.write.IsUnderscored := by
  apply underscored_record RoomEntry.form.names rfl (by decide) (by decide)
  simp

@[simp] theorem SubjectEntry.underscored (entry : SubjectEntry) : entry.write.IsUnderscored := by
  apply underscored_record SubjectEntry.form.names rfl (by decide) (by decide)
  simp

@[simp] theorem ClassEntry.underscored (entry : ClassEntry) : entry.write.IsUnderscored := by
  apply underscored_record ClassEntry.form.names rfl (by decide) (by decide)
  simp

@[simp] theorem TeacherEntry.underscored (entry : TeacherEntry) : entry.write.IsUnderscored := by
  apply underscored_record TeacherEntry.form.names rfl (by decide) (by decide)
  simp

@[simp] theorem Qualification.underscored (record : Qualification) : record.write.IsUnderscored := by
  apply underscored_record Qualification.form.names rfl (by decide) (by decide)
  simp

@[simp] theorem Availability.underscored (record : Availability) : record.write.IsUnderscored := by
  apply underscored_record Availability.form.names rfl (by decide) (by decide)
  simp

@[simp] theorem Requirement.underscored (record : Requirement) : record.write.IsUnderscored := by
  apply underscored_record Requirement.form.names rfl (by decide) (by decide)
  simp

theorem Problem.underscored (problem : Problem) : problem.write.IsUnderscored := by
  apply underscored_record Problem.form.names rfl (by decide) (by decide)
  simp

end Records

namespace Problem

variable {problem : Problem}

/-- All times of the slots are without a zone or in universal time. -/
def HasPlainTimes (problem : Problem) : Prop := ∀ slot ∈ problem.slots, slot.HasPlainTimes

theorem mirrored (plain : problem.HasPlainTimes) : Mirrored read write problem := by
  have term : (Form.required "term_id" nonemptyText).Echoes problem.write.fields problem.term :=
    .required (mirrored_nonempty_text _) rfl
  have slots : (Form.required "time_slots" (nonemptyListOf SlotEntry.read)).Echoes problem.write.fields
      problem.slots :=
    .required (mirrored_nonempty_list fun slot listed => SlotEntry.mirrored (plain slot listed)) rfl
  have rooms : (Form.optional "rooms" [] (listOf RoomEntry.read)).Echoes problem.write.fields
      problem.rooms :=
    .optional (mirrored_list fun room _ => room.mirrored) rfl rfl
  have subjects : (Form.required "subjects" (nonemptyListOf SubjectEntry.read)).Echoes problem.write.fields
      problem.subjects :=
    .required (mirrored_nonempty_list fun subject _ => subject.mirrored) rfl
  have classes : (Form.required "school_classes" (nonemptyListOf ClassEntry.read)).Echoes
      problem.write.fields problem.classes :=
    .required (mirrored_nonempty_list fun schoolClass _ => schoolClass.mirrored) rfl
  have teachers : (Form.required "teachers" (nonemptyListOf TeacherEntry.read)).Echoes problem.write.fields
      problem.teachers :=
    .required (mirrored_nonempty_list fun teacher _ => teacher.mirrored) rfl
  have qualifications : (Form.optional "qualifications" [] (listOf Qualification.read)).Echoes
      problem.write.fields problem.qualifications :=
    .optional (mirrored_list fun record _ => record.mirrored) rfl rfl
  have availabilities : (Form.optional "availabilities" [] (listOf Availability.read)).Echoes
      problem.write.fields problem.availabilities :=
    .optional (mirrored_list fun record _ => record.mirrored) rfl rfl
  have requirements : (Form.optional "requirements" [] (listOf Requirement.read)).Echoes
      problem.write.fields problem.requirements :=
    .optional (mirrored_list fun record _ => record.mirrored) rfl rfl
  have catalogs := ((((term.map Problem.mk).seq slots).seq rooms).seq subjects).seq classes
  have parts := (((catalogs.seq teachers).seq qualifications).seq availabilities).seq requirements
  refine (Form.mirrored_closed (parts.echoes ?_) rfl (by decide) rfl).and_then checked_passes
  rintro ⟨⟨⟨⟨⟨⟨⟨⟨_, _⟩, _⟩, _⟩, _⟩, _⟩, _⟩, _⟩, _⟩ ⟨⟨⟨⟨⟨⟨⟨⟨_, _⟩, _⟩, _⟩, _⟩, _⟩, _⟩, _⟩, _⟩ ⟨⟩
  rfl

/-- The loader reads a snapshot from the document that is written of it. -/
theorem load_of_written {document : Json} (accepted : read document = .ok problem)
    (plain : problem.HasPlainTimes) :
    problem.write.underscoreKeys = problem.write ∧ load problem.write = .ok problem := by
  have settled : problem.write.underscoreKeys = problem.write := problem.underscored
  refine ⟨settled, ?_⟩
  unfold load
  rw [settled]
  exact (mirrored plain).settled accepted

/-- A snapshot with slots that have no ids, and with times to the microsecond and of universal time. -/
def timedDocument : Json :=
  .obj [("term_id", .str "T"),
    ("time_slots", .arr
      [.obj [("day_of_week", .int 0), ("period", .str "1"), ("start_time", .str "07:45"),
          ("end_time", .str "08:30:00.25")],
        .obj [("day_of_week", .int 0), ("period", .int 2), ("start_time", .int 30000),
          ("end_time", .str "09:05Z"), ("is_break", .str "no")]]),
    ("subjects", .arr [.obj [("id", .str "math"), ("name", .str "Mathematics")]]),
    ("school_classes", .arr [.obj [("id", .str "5a"), ("name", .str "5a"), ("grade_level", .int 5)]]),
    ("teachers", .arr [.obj [("id", .str "meier"), ("name", .str "Meier")]])]

def timed : Problem where
  term := "T"
  slots :=
    [⟨"0-1", 0, 1, some ⟨27900000000, none, by decide⟩, some ⟨30600250000, none, by decide⟩, false⟩,
      ⟨"0-2", 0, 2, some ⟨30000000000, some 0, by decide⟩, some ⟨32700000000, some 0, by decide⟩, false⟩]
  rooms := []
  subjects := [⟨"math", "Mathematics", none⟩]
  classes := [⟨"5a", "5a", 5, none, none, true⟩]
  teachers := [⟨"meier", "Meier", none, 28, true⟩]
  qualifications := []
  availabilities := []
  requirements := []

theorem timed_read : read timedDocument = .ok timed := by decide +kernel

theorem timed_is_returned : read timedDocument = .ok timed ∧ timed.HasPlainTimes ∧
    timed.write.underscoreKeys = timed.write ∧ load timed.write = .ok timed := by
  have plain : timed.HasPlainTimes := by
    intro slot listed
    rcases List.mem_pair.1 listed with rfl | rfl
    · exact ⟨by simp [ClockTime.IsPlain], by simp [ClockTime.IsPlain]⟩
    · exact ⟨by simp [ClockTime.IsPlain], by simp [ClockTime.IsPlain]⟩
  exact ⟨timed_read, plain, load_of_written timed_read plain⟩

end Problem

end SchoolTimetable
