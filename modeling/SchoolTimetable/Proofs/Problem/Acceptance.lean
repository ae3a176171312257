import Mathlib.Data.List.Forall2
import Mathlib.Data.List.Infix
import SchoolTimetable.Proofs.Problem.Validity
import SchoolTimetable.Proofs.Record.Numerals
import SchoolTimetable.Proofs.Text.Digits

/-!
Which snapshots are accepted, and what is reported on the others. A snapshot whose fields are all accepted is
accepted itself exactly if it is well formed; otherwise every repeated occurrence is reported, or, where nothing
is repeated, every reference that names no entry.
-/

namespace SchoolTimetable

open Record

theorem slot_key_letters (day period : Int) :
    (slotKey day period).toList = wholeLetters day ++ '-' :: wholeLetters period := by
  change (toString day ++ "-" ++ toString period).toList = _
  rw [String.toList_append, String.toList_append, whole_letters, whole_letters]
  simp

theorem dash_not_in_whole {value : Int} (natural : 0 ≤ value) : '-' ∉ wholeLetters value := by
  unfold wholeLetters
  rw [if_neg (Int.not_lt.2 natural)]
  exact dash_not_in_digits value.natAbs

theorem slot_key_injective {day period otherDay otherPeriod : Int} (weekday : 0 ≤ day) (counted : 0 ≤ period)
    (same : slotKey day period = slotKey otherDay otherPeriod) : day = otherDay ∧ period = otherPeriod := by
  have letters := congrArg String.toList same
  rw [slot_key_letters, slot_key_letters] at letters
  -- Neither number has a sign, so the only dash is the one between them.
  obtain ⟨sameDay, -, samePeriod⟩ :=
    (List.append_cons_inj_of_notMem (dash_not_in_whole weekday) (dash_not_in_whole counted)).1 letters
  exact ⟨whole_letters_injective sameDay, whole_letters_injective samePeriod⟩

namespace Problem

def repeatedIn (texts : List String) : List String :=
  ((texts.zip texts.inits).filter fun occurrence => occurrence.1 ∈ occurrence.2).map (·.1)

/-- What must not be repeated: the ids of each catalog and those of requirements that have one, and the
positions of the slots. -/
def registers (problem : Problem) : List (String × List String) :=
  [("time slot ID", problem.slots.map (·.id)), ("room ID", problem.rooms.map (·.id)),
    ("subject ID", problem.subjects.map (·.id)), ("class ID", problem.classes.map (·.id)),
    ("teacher ID", problem.teachers.map (·.id)), ("requirement ID", problem.requirements.filterMap (·.id)),
    ("time slot position", problem.slots.map (·.key))]

/-- One line for every repeated occurrence. -/
def repetitionLines (problem : Problem) : List String :=
  problem.registers.flatMap fun (noun, texts) => (repeatedIn texts).map fun text => s!"Duplicate {noun}: '{text}'"

/-- A mention of an id in a record, which has to be one of those known. -/
structure Reference where
  place : String
  noun : String
  id : String
  known : List String

def Reference.line (reference : Reference) : String :=
  s!"{reference.place}: unknown {reference.noun} '{reference.id}'"

def references (problem : Problem) : List Reference :=
  let teachers := problem.teachers.map (·.id)
  let classes := problem.classes.map (·.id)
  let subjects := problem.subjects.map (·.id)
  (problem.requirements.flatMap fun record =>
    ⟨s!"Requirement {record.key}", "school_class_id", record.schoolClass, classes⟩ ::
      ⟨s!"Requirement {record.key}", "subject_id", record.subject, subjects⟩ ::
        record.candidates.map fun teacher =>
          ⟨s!"Requirement {record.key}", "candidate teacher", teacher, teachers⟩) ++
  (problem.qualifications.flatMap fun record =>
    [⟨"Qualification", "teacher_id", record.teacher, teachers⟩,
      ⟨"Qualification", "subject_id", record.subject, subjects⟩]) ++
  (problem.availabilities.map fun record => ⟨"Availability", "teacher_id", record.teacher, teachers⟩) ++
  (problem.rooms.flatMap fun room => room.suitableSubjects.map fun subject =>
    ⟨s!"Room {room.id}", "suitable subject", subject, subjects⟩) ++
  problem.classes.flatMap fun schoolClass =>
    (schoolClass.classTeacher.toList.filter (· ≠ "")).map fun teacher =>
      ⟨s!"Class {schoolClass.id}", "class_teacher_id", teacher, teachers⟩

/-- One line for every reference that names no entry. -/
def unresolvedLines (problem : Problem) : List String :=
  (problem.references.filter fun reference => reference.id ∉ reference.known).map (·.line)

/-- The ids of each catalog are distinct, those of requirements where they are given, and so are the positions of
the slots. -/
structure Unrepeated (problem : Problem) : Prop where
  slots : (problem.slots.map (·.id)).Nodup
  rooms : (problem.rooms.map (·.id)).Nodup
  subjects : (problem.subjects.map (·.id)).Nodup
  classes : (problem.classes.map (·.id)).Nodup
  teachers : (problem.teachers.map (·.id)).Nodup
  requirements : (problem.requirements.filterMap (·.id)).Nodup
  positions : problem.slots.Pairwise fun first second => ¬(first.day = second.day ∧ first.period = second.period)

/-- Every reference names an entry of its catalog. -/
structure Resolved (problem : Problem) : Prop where
  requirements : ∀ record ∈ problem.requirements,
    (∃ entry ∈ problem.classes, entry.id = record.schoolClass) ∧
      (∃ entry ∈ problem.subjects, entry.id = record.subject) ∧
        ∀ teacher ∈ record.candidates, ∃ entry ∈ problem.teachers, entry.id = teacher
  qualifications : ∀ record ∈ problem.qualifications,
    (∃ entry ∈ problem.teachers, entry.id = record.teacher) ∧
      ∃ entry ∈ problem.subjects, entry.id = record.subject
  availabilities : ∀ record ∈ problem.availabilities, ∃ entry ∈ problem.teachers, entry.id = record.teacher
  rooms : ∀ room ∈ problem.rooms, ∀ subject ∈ room.suitableSubjects,
    ∃ entry ∈ problem.subjects, entry.id = subject
  classes : ∀ schoolClass ∈ problem.classes, ∀ teacher ∈ schoolClass.classTeacher, teacher ≠ "" →
    ∃ entry ∈ problem.teachers, entry.id = teacher

variable {problem : Problem}

theorem repetitions_eq (seen texts : List String) :
    repetitions seen texts = ((texts.zip texts.inits).filter fun occurrence =>
      occurrence.1 ∈ seen ∨ occurrence.1 ∈ occurrence.2).map (·.1) := by
  induction texts generalizing seen with
  | nil => rfl
  | cons text rest ih =>
      rw [repetitions, List.inits_cons, List.zip_cons_cons, List.zip_map_right, List.filter_cons, List.filter_map]
      by_cases before : text ∈ seen
      · rw [if_pos (by simpa using before), if_pos (by simpa using before), ih, List.map_cons, List.map_map]
        congr 2
        apply List.filter_congr
        intro occurrence _
        by_cases same : occurrence.1 = text
        · simp [same, before]
        · simp [same]
      · rw [if_neg (by simpa using before), if_neg (by simpa using before), ih, List.map_map]
        congr 1
        apply List.filter_congr
        intro occurrence _
        simp only [Function.comp, Prod.map, List.mem_cons, decide_eq_decide, id]
        tauto

theorem repetitions_are_repeated (texts : List String) : repetitions [] texts = repeatedIn texts := by
  rw [repetitions_eq]
  simp [repeatedIn]

theorem duplicate_faults_eq (problem : Problem) : problem.duplicateFaults = problem.repetitionLines := by
  unfold duplicateFaults repetitionLines registers
  simp only [List.flatMap_cons, List.flatMap_nil, List.append_nil, List.append_assoc, repetitions_are_repeated]
  rfl

theorem line_parts (place noun id : String) (known : List String) :
    Reference.line ⟨place, noun, id, known⟩ = place ++ (": unknown " ++ noun ++ " '") ++ id ++ "'" := by
  change place ++ ": unknown " ++ noun ++ " '" ++ id ++ "'" = _
  simp only [String.append_assoc]

theorem unresolved_lines_eq (references : List Reference) :
    ((references.filter fun reference => reference.id ∉ reference.known).map (·.line)) =
    references.flatMap fun reference => if reference.known.contains reference.id then [] else [reference.line] := by
  induction references with
  | nil => rfl
  | cons reference rest ih =>
      rw [List.filter_cons, List.flatMap_cons, ← ih]
      by_cases known : reference.id ∈ reference.known
      · simp [known]
      · simp [known]

theorem reference_faults_eq (problem : Problem) : problem.referenceFaults = problem.unresolvedLines := by
  have texts : ∀ text : String, toString text = text := fun _ => rfl
  unfold unresolvedLines
  rw [unresolved_lines_eq]
  unfold referenceFaults references
  simp only [List.flatMap_append, List.flatMap_assoc, List.flatMap_cons, List.flatMap_nil, List.flatMap_map,
    List.append_nil, List.append_assoc, line_parts, texts, String.reduceAppend]
  congr 4
  apply List.flatMap_congr
  intro schoolClass _
  cases schoolClass.classTeacher with
  | none => rfl
  | some teacher =>
      by_cases blank : teacher = ""
      · simp [blank]
      · simp [blank]

theorem repetition_lines_nil (natural : ∀ slot ∈ problem.slots, 0 ≤ slot.day ∧ 0 ≤ slot.period) :
    problem.repetitionLines = [] ↔ problem.Unrepeated := by
  have positions : (problem.slots.map (·.key)).Nodup ↔ problem.slots.Pairwise fun first second =>
      ¬(first.day = second.day ∧ first.period = second.period) := by
    rw [List.Nodup, List.pairwise_map]
    apply List.Pairwise.iff_of_mem
    intro first second firstListed secondListed
    apply not_congr
    constructor
    · obtain ⟨weekday, counted⟩ := natural first firstListed
      exact slot_key_injective weekday counted
    · intro ⟨sameDay, samePeriod⟩
      rw [SlotEntry.key, SlotEntry.key, sameDay, samePeriod]
  unfold repetitionLines registers
  simp only [List.flatMap_eq_nil_iff, List.map_eq_nil_iff, ← repetitions_are_repeated, no_repetition_iff,
    List.forall_mem_cons, List.not_mem_nil, not_false_eq_true, implies_true, IsEmpty.forall_iff, and_true]
  constructor
  · intro ⟨slots, rooms, subjects, classes, teachers, requirements, keys⟩
    exact ⟨slots, rooms, subjects, classes, teachers, requirements, positions.1 keys⟩
  · intro unrepeated
    exact ⟨unrepeated.slots, unrepeated.rooms, unrepeated.subjects, unrepeated.classes, unrepeated.teachers,
      unrepeated.requirements, positions.2 unrepeated.positions⟩

theorem unresolved_lines_nil : problem.unresolvedLines = [] ↔ problem.Resolved := by
  have known : problem.unresolvedLines = [] ↔ ∀ reference ∈ problem.references, reference.id ∈ reference.known := by
    unfold unresolvedLines
    simp
  rw [known]
  unfold references
  simp only [List.forall_mem_append, List.forall_mem_flatMap, List.forall_mem_cons, List.forall_mem_map]
  simp only [List.mem_map, List.mem_filter, Option.mem_toList, List.not_mem_nil, IsEmpty.forall_iff, implies_true,
    and_true, decide_eq_true_eq, and_imp]
  constructor
  · intro ⟨⟨⟨⟨requirements, qualifications⟩, availabilities⟩, rooms⟩, classes⟩
    exact ⟨requirements, qualifications, availabilities, rooms, classes⟩
  · intro resolved
    exact ⟨⟨⟨⟨resolved.requirements, resolved.qualifications⟩, resolved.availabilities⟩, resolved.rooms⟩,
      resolved.classes⟩

/-- The id that is written in a record, if there is one. -/
def writtenId? (item : Json) : Option String :=
  match item.get? "id" with
  | some (.str id) => some id
  | _ => none

theorem written_id_of_read {entries : List (String × Json)} {id : Option String}
    (idRead : (Form.optional "id" none (nullable text)).read entries = .ok id) :
    writtenId? (.obj entries) = id := by
  unfold writtenId?
  change (match Entries.get? "id" entries with | some (.str id) => some id | _ => none) = id
  rcases Form.optional_ok_iff.1 idRead with ⟨absent, rfl⟩ | ⟨item, found, itemRead⟩
  · rw [absent]
  · rw [found]
    cases item with
    | null => exact Checked.ok.inj itemRead
    | str written => exact Checked.ok.inj itemRead
    | _ => cases itemRead

/-- The position of an accepted slot has no signs, and its id is the one that is written in it or else its key. -/
theorem slot_of_read {item : Json} {slot : SlotEntry} (accepted : SlotEntry.read item = .ok slot) :
    (0 ≤ slot.day ∧ 0 ≤ slot.period) ∧ slot.id = (writtenId? item).getD slot.key := by
  obtain ⟨raw, closed, passed⟩ := Checked.and_then_ok.1 accepted
  obtain rfl := SlotEntry.ordered_passes passed
  obtain ⟨entries, rfl, fields⟩ := Form.closed_fields_ok closed
  simp only [SlotEntry.form, Form.seq_ok, Form.map_ok] at fields
  obtain ⟨_, _, ⟨_, _, ⟨_, _, ⟨_, period, ⟨_, day, ⟨id, idRead, rfl⟩, dayRead, rfl⟩, periodRead, rfl⟩, -, rfl⟩,
    -, rfl⟩, -, rfl⟩ := fields
  obtain ⟨_, dayBetween⟩ := Form.required_ok dayRead
  obtain ⟨_, periodBetween⟩ := Form.required_ok periodRead
  have positive : 1 ≤ period := (whole_between_ok periodBetween).1
  have natural : 0 ≤ period := by omega
  rw [written_id_of_read idRead]
  exact ⟨⟨(whole_between_ok dayBetween).1, natural⟩, rfl⟩

theorem slots_of_fields {document : Json} (fields : form.closed title document = .ok problem) :
    ∃ items, document.get? "time_slots" = some (.arr items) ∧
      items.map SlotEntry.read = problem.slots.map .ok := by
  obtain ⟨entries, rfl, fieldsRead⟩ := Form.closed_fields_ok fields
  simp only [form, Form.seq_ok, Form.map_ok] at fieldsRead
  obtain ⟨_, _, ⟨_, _, ⟨_, _, ⟨_, _, ⟨_, _, ⟨_, _, ⟨_, _, ⟨_, slots, ⟨_, -, rfl⟩, slotsRead, rfl⟩, -, rfl⟩,
    -, rfl⟩, -, rfl⟩, -, rfl⟩, -, rfl⟩, -, rfl⟩, -, rfl⟩ := fieldsRead
  obtain ⟨item, found, itemRead⟩ := Form.required_ok_iff.1 slotsRead
  have listRead := nonempty_list_ok itemRead
  cases item with
  | arr items => exact ⟨items, found, list_of_ok_iff.1 listRead⟩
  | _ => cases listRead

theorem faultless_of_none {heading : String} {faults : Problem → List String} (none : faults problem = []) :
    faultless heading faults problem = .ok problem := by
  unfold faultless
  rw [none]

theorem faultless_of_some {heading : String} {faults : Problem → List String} (some : faults problem ≠ []) :
    faultless heading faults problem = .flaw (.rule (itemized heading (faults problem))) := by
  unfold faultless
  split
  · rename_i none
    exact absurd none some
  · rfl

theorem checked_of_unrepeated (unrepeated : problem.duplicateFaults = []) :
    checked problem = faultless "Reference validation failed" referenceFaults problem := by
  unfold checked
  rw [faultless_of_none unrepeated]
  rfl

theorem checked_of_repeated (repeated : problem.duplicateFaults ≠ []) :
    checked problem = .flaw (.rule (itemized "Duplicate ID validation failed" problem.duplicateFaults)) := by
  unfold checked
  rw [faultless_of_some repeated]
  rfl

/-- Of a snapshot whose fields are all accepted, slots without an id have their key as id. It is accepted exactly if
nothing is repeated and all references are resolved. Otherwise just the repeated occurrences are reported or, where
there are none, the references that are not resolved. -/
theorem accepted_iff_well_formed {document : Json} (fields : form.closed title document = .ok problem) :
    (∃ items, document.get? "time_slots" = some (.arr items) ∧
      List.Forall₂ (fun item slot => slot.id = (writtenId? item).getD slot.key) items problem.slots) ∧
    ((∃ accepted, read document = .ok accepted) ↔ problem.Unrepeated ∧ problem.Resolved) ∧
    (problem.Unrepeated ∧ problem.Resolved → read document = .ok problem) ∧
    (¬problem.Unrepeated → problem.repetitionLines ≠ [] ∧
      read document = .flaw (.rule (itemized "Duplicate ID validation failed" problem.repetitionLines))) ∧
    (problem.Unrepeated ∧ ¬problem.Resolved → problem.unresolvedLines ≠ [] ∧
      read document = .flaw (.rule (itemized "Reference validation failed" problem.unresolvedLines))) := by
  obtain ⟨items, found, slotsRead⟩ := slots_of_fields fields
  have filled : List.Forall₂ (fun item slot => slot.id = (writtenId? item).getD slot.key) items problem.slots := by
    rw [← List.forall₂_eq_eq_eq, List.forall₂_map_left_iff, List.forall₂_map_right_iff] at slotsRead
    exact slotsRead.imp fun item slot accepted => (slot_of_read accepted).2
  have natural : ∀ slot ∈ problem.slots, 0 ≤ slot.day ∧ 0 ≤ slot.period := by
    intro slot listed
    have read : .ok slot ∈ items.map SlotEntry.read := slotsRead ▸ List.mem_map_of_mem listed
    obtain ⟨item, -, accepted⟩ := List.mem_map.1 read
    exact (slot_of_read accepted).1
  have checks : read document = checked problem := by
    unfold read
    rw [fields]
    rfl
  have repetition : problem.duplicateFaults = [] ↔ problem.Unrepeated := by
    rw [duplicate_faults_eq]
    exact repetition_lines_nil natural
  have resolution : problem.referenceFaults = [] ↔ problem.Resolved := by
    rw [reference_faults_eq]
    exact unresolved_lines_nil
  have passes : problem.Unrepeated ∧ problem.Resolved → checked problem = .ok problem := by
    intro ⟨unrepeated, resolved⟩
    rw [checked_of_unrepeated (repetition.2 unrepeated), faultless_of_none (resolution.2 resolved)]
  rw [checks, ← duplicate_faults_eq, ← reference_faults_eq]
  refine ⟨⟨items, found, filled⟩, ⟨?accepted, fun wellFormed => ⟨problem, passes wellFormed⟩⟩, passes, ?repeated,
    ?unresolved⟩
  case accepted =>
    intro ⟨accepted, passed⟩
    obtain ⟨first, distinct, references⟩ := Checked.and_then_ok.1 passed
    obtain ⟨unrepeated, rfl⟩ := faultless_ok distinct
    exact ⟨repetition.1 unrepeated, resolution.1 (faultless_ok references).1⟩
  case repeated =>
    intro repeated
    have some := mt repetition.1 repeated
    exact ⟨some, checked_of_repeated some⟩
  case unresolved =>
    intro ⟨unrepeated, unresolved⟩
    have some := mt resolution.1 unresolved
    rw [checked_of_unrepeated (repetition.2 unrepeated)]
    exact ⟨some, faultless_of_some some⟩

/-- A snapshot whose second slot has the key of the first one as id. -/
def clashing : Json :=
  .obj [("term_id", .str "T"),
    ("time_slots", .arr [.obj [("day_of_week", .int 0), ("period", .int 2)],
      .obj [("id", .str "0-2"), ("day_of_week", .int 1), ("period", .int 2)]]),
    ("subjects", .arr [.obj [("id", .str "math"), ("name", .str "Mathematics")]]),
    ("school_classes", .arr [.obj [("id", .str "5a"), ("name", .str "5a"), ("grade_level", .int 5)]]),
    ("teachers", .arr [.obj [("id", .str "meier"), ("name", .str "Meier")]])]

def clash : Problem :=
  ⟨"T", [⟨"0-2", 0, 2, none, none, false⟩, ⟨"0-2", 1, 2, none, none, false⟩], [], [⟨"math", "Mathematics", none⟩],
    [⟨"5a", "5a", 5, none, none, true⟩], [⟨"meier", "Meier", none, 28, true⟩], [], [], []⟩

theorem clash_is_reported : form.closed title clashing = .ok clash ∧
    read clashing = .flaw (.rule "Duplicate ID validation failed:\n  - Duplicate time slot ID: '0-2'") := by
  have fields : form.closed title clashing = .ok clash := by decide
  have repeated : ¬clash.Unrepeated := fun unrepeated => absurd unrepeated.slots (by decide)
  exact ⟨fields, ((accepted_iff_well_formed fields).2.2.2.1 repeated).2⟩

end Problem

end SchoolTimetable
