import SchoolTimetable.Problem.Basic
import SchoolTimetable.Proofs.Record.Reading

/-!
What an accepted snapshot satisfies: no id occurs twice in a catalog, every reference names an entry, and
every requirement is for at least one hour.
-/

namespace SchoolTimetable

open Record

namespace SlotEntry

theorem ordered_passes {first second : SlotEntry} (passed : ordered first = .ok second) :
    second = first := by
  unfold ordered at passed
  split at passed
  · split at passed
    · cases passed
    · exact (Checked.ok.inj passed).symm
    · cases passed
  · exact (Checked.ok.inj passed).symm

structure OnGrid (slot : SlotEntry) : Prop where
  day : 0 ≤ slot.day ∧ slot.day ≤ 4
  period : 1 ≤ slot.period ∧ slot.period ≤ 16

theorem on_grid_of_read {document : Json} {slot : SlotEntry} (accepted : read document = .ok slot) :
    slot.OnGrid := by
  obtain ⟨raw, closed, passed⟩ := Checked.and_then_ok.1 accepted
  obtain rfl := ordered_passes passed
  obtain ⟨entries, fields⟩ := Form.closed_ok closed
  simp only [form, Form.seq_ok, Form.map_ok] at fields
  obtain ⟨_, _, ⟨_, _, ⟨_, _, ⟨_, _, ⟨_, _, ⟨_, -, rfl⟩, dayRead, rfl⟩, periodRead, rfl⟩, -, rfl⟩, -, rfl⟩,
    -, rfl⟩ := fields
  obtain ⟨day, dayBetween⟩ := Form.required_ok dayRead
  obtain ⟨period, periodBetween⟩ := Form.required_ok periodRead
  exact ⟨whole_between_ok dayBetween, whole_between_ok periodBetween⟩

end SlotEntry

namespace Problem

/-- A snapshot without repetitions and unknown references, with hours for every requirement. -/
structure Valid (problem : Problem) : Prop where
  unrepeated : problem.duplicateFaults = []
  known : problem.referenceFaults = []
  hours : ∀ requirement ∈ problem.requirements, 1 ≤ requirement.weeklyHours

theorem faultless_ok {heading : String} {faults : Problem → List String} {problem accepted : Problem}
    (passed : faultless heading faults problem = .ok accepted) :
    faults problem = [] ∧ accepted = problem := by
  unfold faultless at passed
  split at passed
  · rename_i none
    exact ⟨none, (Checked.ok.inj passed).symm⟩
  · cases passed

theorem requirement_hours_of_read {document : Json} {requirement : Requirement}
    (accepted : Requirement.read document = .ok requirement) : 1 ≤ requirement.weeklyHours := by
  obtain ⟨entries, fields⟩ := Form.closed_ok accepted
  simp only [Requirement.form, Form.seq_ok, Form.map_ok] at fields
  obtain ⟨_, _, ⟨_, _, ⟨_, _, ⟨_, _, ⟨_, _, ⟨_, -, rfl⟩, -, rfl⟩, -, rfl⟩, hoursRead, rfl⟩, -, rfl⟩,
    -, rfl⟩ := fields
  obtain ⟨item, between⟩ := Form.required_ok hoursRead
  exact (whole_between_ok between).1

theorem hours_of_form {entries : List (String × Json)} {problem : Problem}
    (fields : form.read entries = .ok problem) {requirement : Requirement}
    (listed : requirement ∈ problem.requirements) : 1 ≤ requirement.weeklyHours := by
  simp only [form, Form.seq_ok, Form.map_ok] at fields
  obtain ⟨_, requirements, ⟨_, _, ⟨_, _, ⟨_, _, ⟨_, _, ⟨_, _, ⟨_, _, ⟨_, _, ⟨_, -, rfl⟩, -, rfl⟩, -, rfl⟩,
    -, rfl⟩, -, rfl⟩, -, rfl⟩, -, rfl⟩, -, rfl⟩, requirementsRead, rfl⟩ := fields
  change requirement ∈ requirements at listed
  rcases Form.optional_ok requirementsRead with rfl | ⟨item, read⟩
  · cases listed
  · obtain ⟨document, requirementRead⟩ := list_of_ok read listed
    exact requirement_hours_of_read requirementRead

theorem grid_of_form {entries : List (String × Json)} {problem : Problem}
    (fields : form.read entries = .ok problem) {slot : SlotEntry} (listed : slot ∈ problem.slots) : slot.OnGrid := by
  simp only [form, Form.seq_ok, Form.map_ok] at fields
  obtain ⟨_, _, ⟨_, _, ⟨_, _, ⟨_, _, ⟨_, _, ⟨_, _, ⟨_, _, ⟨_, slots, ⟨_, -, rfl⟩, slotsRead, rfl⟩, -, rfl⟩,
    -, rfl⟩, -, rfl⟩, -, rfl⟩, -, rfl⟩, -, rfl⟩, -, rfl⟩ := fields
  change slot ∈ slots at listed
  obtain ⟨item, read⟩ := Form.required_ok slotsRead
  obtain ⟨document, slotRead⟩ := list_of_ok (nonempty_list_ok read) listed
  exact SlotEntry.on_grid_of_read slotRead

theorem some_of_form {entries : List (String × Json)} {problem : Problem}
    (fields : form.read entries = .ok problem) : problem.slots ≠ [] ∧ problem.teachers ≠ [] := by
  simp only [form, Form.seq_ok, Form.map_ok] at fields
  obtain ⟨_, _, ⟨_, _, ⟨_, _, ⟨_, teachers, ⟨_, _, ⟨_, _, ⟨_, _, ⟨_, slots, ⟨_, -, rfl⟩, slotsRead, rfl⟩,
    -, rfl⟩, -, rfl⟩, -, rfl⟩, teachersRead, rfl⟩, -, rfl⟩, -, rfl⟩, -, rfl⟩ := fields
  obtain ⟨item, slotsAccepted⟩ := Form.required_ok slotsRead
  obtain ⟨document, teachersAccepted⟩ := Form.required_ok teachersRead
  exact ⟨nonempty_list_ne slotsAccepted, nonempty_list_ne teachersAccepted⟩

theorem checked_passes {first second : Problem} (passed : checked first = .ok second) : second = first := by
  obtain ⟨once, distinct, references⟩ := Checked.and_then_ok.1 passed
  obtain ⟨-, rfl⟩ := faultless_ok distinct
  exact (faultless_ok references).2

theorem fields_of_read {document : Json} {problem : Problem} (accepted : read document = .ok problem) :
    ∃ entries, form.read entries = .ok problem := by
  obtain ⟨raw, closed, checks⟩ := Checked.and_then_ok.1 accepted
  obtain rfl := checked_passes checks
  exact Form.closed_ok closed

theorem valid_of_read {document : Json} {problem : Problem}
    (accepted : read document = .ok problem) : problem.Valid := by
  obtain ⟨raw, closed, checks⟩ := Checked.and_then_ok.1 accepted
  obtain ⟨entries, fields⟩ := Form.closed_ok closed
  obtain ⟨once, distinct, references⟩ := Checked.and_then_ok.1 checks
  obtain ⟨unrepeated, rfl⟩ := faultless_ok distinct
  obtain ⟨known, rfl⟩ := faultless_ok references
  exact ⟨unrepeated, known, fun requirement listed => hours_of_form fields listed⟩

theorem no_repetition_iff {values seen : List String} :
    repetitions seen values = [] ↔ values.Nodup ∧ ∀ value ∈ values, value ∉ seen := by
  induction values generalizing seen with
  | nil => simp [repetitions]
  | cons value rest ih =>
      unfold repetitions
      split
      · rename_i again
        have before : value ∈ seen := by simpa using again
        simp [before]
      · rename_i fresh
        have unseen : value ∉ seen := by simpa using fresh
        rw [ih, List.nodup_cons, List.forall_mem_cons]
        simp only [List.mem_cons, not_or]
        constructor
        · intro ⟨distinct, others⟩
          have absent : value ∉ rest := fun later => (others value later).1 rfl
          exact ⟨⟨absent, distinct⟩, unseen, fun other later => (others other later).2⟩
        · intro ⟨⟨absent, distinct⟩, _, others⟩
          refine ⟨distinct, fun other later => ⟨?_, others other later⟩⟩
          exact fun same => absent (same ▸ later)

theorem nodup_of_no_repetition {values : List String} (none : repetitions [] values = []) : values.Nodup :=
  (no_repetition_iff.1 none).1

theorem mem_of_no_line {known : List String} {id line : String}
    (none : (if known.contains id then [] else [line]) = []) : id ∈ known := by
  by_cases listed : known.contains id = true
  · simpa using listed
  · rw [if_neg listed] at none
    cases none

namespace Valid

variable {problem : Problem}

theorem slot_ids_nodup (valid : problem.Valid) : (problem.slots.map (·.id)).Nodup := by
  have unrepeated := valid.unrepeated
  simp only [duplicateFaults, List.append_eq_nil_iff, List.map_eq_nil_iff] at unrepeated
  exact nodup_of_no_repetition unrepeated.1.1.1.1.1.1

theorem subject_ids_nodup (valid : problem.Valid) : (problem.subjects.map (·.id)).Nodup := by
  have unrepeated := valid.unrepeated
  simp only [duplicateFaults, List.append_eq_nil_iff, List.map_eq_nil_iff] at unrepeated
  exact nodup_of_no_repetition unrepeated.1.1.1.1.2

theorem class_ids_nodup (valid : problem.Valid) : (problem.classes.map (·.id)).Nodup := by
  have unrepeated := valid.unrepeated
  simp only [duplicateFaults, List.append_eq_nil_iff, List.map_eq_nil_iff] at unrepeated
  exact nodup_of_no_repetition unrepeated.1.1.1.2

theorem teacher_ids_nodup (valid : problem.Valid) : (problem.teachers.map (·.id)).Nodup := by
  have unrepeated := valid.unrepeated
  simp only [duplicateFaults, List.append_eq_nil_iff, List.map_eq_nil_iff] at unrepeated
  exact nodup_of_no_repetition unrepeated.1.1.2

theorem requirement_known (valid : problem.Valid) {requirement : Requirement}
    (listed : requirement ∈ problem.requirements) :
    requirement.schoolClass ∈ problem.classes.map (·.id) ∧
      requirement.subject ∈ problem.subjects.map (·.id) := by
  have known := valid.known
  simp only [referenceFaults, List.append_eq_nil_iff, List.flatMap_eq_nil_iff] at known
  obtain ⟨⟨classKnown, subjectKnown⟩, -⟩ := known.1.1.1.1 requirement listed
  exact ⟨mem_of_no_line classKnown, mem_of_no_line subjectKnown⟩

end Valid

end Problem

end SchoolTimetable
