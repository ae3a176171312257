import Mathlib.Algebra.Order.Floor.Ring
import Mathlib.Data.Rat.Floor
import SchoolTimetable.Proofs.Sample.Drafts

/-!
The qualifications of sample schools. Every subject is given to as many teachers as its demand needs, or to all
of them, and what is done for further subjects takes no teacher away from it.
-/

namespace SchoolTimetable.Sample

variable {needed : Int} {subject : String} {assignment : Assignment}

def qualifiedCount (subject : String) (assignment : Assignment) : Nat :=
  assignment.countP (·.2.contains subject)

def holders (subject : String) (assignment : Assignment) : Assignment :=
  assignment.filter fun entry => entry.2.contains subject

def addedTeachers (needed : Int) (subject : String) (assignment : Assignment) : Assignment :=
  ((assignment.filter fun entry => !entry.2.contains subject).mergeSort fun first second =>
    first.2.length ≤ second.2.length).take
      (needed - (holders subject assignment).length).toNat

def withSubject (subject : String) (added : List String) (entry : String × List String) :
    String × List String :=
  if added.contains entry.1 then (entry.1, entry.2 ++ [subject]) else entry

theorem cover_eq (needed : Int) (subject : String) (assignment : Assignment) :
    cover needed subject assignment =
      assignment.map (withSubject subject ((addedTeachers needed subject assignment).map (·.1))) := by
  unfold cover
  rw [List.partition_eq_filter_filter]
  rfl

theorem with_subject_keeps (subject : String) (added : List String) (entry : String × List String) :
    (withSubject subject added entry).1 = entry.1 ∧
      entry.2 ⊆ (withSubject subject added entry).2 := by
  unfold withSubject
  split
  · exact ⟨rfl, List.subset_append_left ..⟩
  · exact ⟨rfl, List.Subset.refl _⟩

theorem cover_teachers (needed : Int) (subject : String) (assignment : Assignment) :
    (cover needed subject assignment).map (·.1) = assignment.map (·.1) := by
  rw [cover_eq, List.map_map]
  exact List.map_congr_left fun entry _ => (with_subject_keeps _ _ entry).1

theorem qualified_count_le_cover (other : String) :
    qualifiedCount other assignment ≤ qualifiedCount other (cover needed subject assignment) := by
  rw [cover_eq]
  unfold qualifiedCount
  rw [List.countP_map]
  apply List.countP_mono_left
  intro entry _ has
  have kept := (with_subject_keeps subject
    ((addedTeachers needed subject assignment).map (·.1)) entry).2 (List.contains_iff_mem.1 has)
  exact List.contains_iff_mem.2 kept

theorem holders_append_perm (subject : String) (assignment : Assignment) :
    (holders subject assignment ++ assignment.filter fun entry => !entry.2.contains subject).Perm
      assignment :=
  List.filter_append_perm (fun entry : String × List String => entry.2.contains subject) assignment

/-- The teachers that had a subject and those it is added to are among all teachers. -/
theorem added_subperm (needed : Int) (subject : String) (assignment : Assignment) :
    (holders subject assignment ++ addedTeachers needed subject assignment).Subperm assignment := by
  have sorted := List.mergeSort_perm (assignment.filter fun entry => !entry.2.contains subject)
    fun first second => decide (first.2.length ≤ second.2.length)
  have parts := (sorted.append_left (holders subject assignment)).trans
    (holders_append_perm subject assignment)
  refine List.Subperm.trans (List.Sublist.subperm ?_) parts.subperm
  exact (List.take_sublist _ _).append_left (holders subject assignment)

theorem length_added (needed : Int) (subject : String) (assignment : Assignment) :
    ((addedTeachers needed subject assignment).length : Int) =
      min (max 0 (needed - (holders subject assignment).length))
        (assignment.length - (holders subject assignment).length) := by
  have parts := (holders_append_perm subject assignment).length_eq
  rw [List.length_append] at parts
  unfold addedTeachers
  rw [List.length_take, List.length_mergeSort]
  omega

/-- A subject that is covered has as many teachers as it needs, or all of them. -/
theorem needed_le_qualified_cover (needed : Int) (subject : String) (assignment : Assignment) :
    min needed assignment.length ≤ (qualifiedCount subject (cover needed subject assignment) : Int) := by
  have covered : qualifiedCount subject (cover needed subject assignment) =
      assignment.countP fun entry => (withSubject subject
        ((addedTeachers needed subject assignment).map (·.1)) entry).2.contains subject := by
    rw [cover_eq, qualifiedCount, List.countP_map]
    rfl
  have all : ∀ entry ∈ holders subject assignment ++ addedTeachers needed subject assignment,
      (withSubject subject ((addedTeachers needed subject assignment).map (·.1)) entry).2.contains subject =
        true := by
    intro entry listed
    rcases List.mem_append.1 listed with had | added
    · have has := List.contains_iff_mem.1 (List.mem_filter.1 had).2
      exact List.contains_iff_mem.2 ((with_subject_keeps _ _ entry).2 has)
    · have chosen : ((addedTeachers needed subject assignment).map (·.1)).contains entry.1 = true :=
        List.contains_iff_mem.2 (List.mem_map_of_mem added)
      unfold withSubject
      rw [if_pos chosen]
      simp
  have counted := (added_subperm needed subject assignment).countP_le fun entry =>
    (withSubject subject ((addedTeachers needed subject assignment).map (·.1)) entry).2.contains subject
  rw [List.countP_eq_length.2 all, List.length_append] at counted
  have added := length_added needed subject assignment
  rw [covered]
  omega

def coverAll (needed : String → Int) (subjects : List String) (assignment : Assignment) : Assignment :=
  subjects.foldl (fun assignment subject => cover (needed subject) subject assignment) assignment

theorem cover_all_teachers (needed : String → Int) (subjects : List String) (assignment : Assignment) :
    (coverAll needed subjects assignment).map (·.1) = assignment.map (·.1) := by
  induction subjects generalizing assignment with
  | nil => rfl
  | cons subject rest ih =>
      exact (ih (cover (needed subject) subject assignment)).trans
        (cover_teachers (needed subject) subject assignment)

theorem qualified_count_le_cover_all (needed : String → Int) (subjects : List String)
    (assignment : Assignment) (subject : String) :
    qualifiedCount subject assignment ≤ qualifiedCount subject (coverAll needed subjects assignment) := by
  induction subjects generalizing assignment with
  | nil => exact Nat.le_refl _
  | cons first rest ih =>
      exact (qualified_count_le_cover subject).trans (ih (cover (needed first) first assignment))

/-- Each of the subjects has as many teachers as it needs, or all of them. -/
theorem needed_le_qualified_cover_all (needed : String → Int) {subjects : List String}
    (assignment : Assignment) {subject : String} (listed : subject ∈ subjects) :
    min (needed subject) assignment.length ≤
      (qualifiedCount subject (coverAll needed subjects assignment) : Int) := by
  induction subjects generalizing assignment with
  | nil => cases listed
  | cons first rest ih =>
      rcases List.mem_cons.1 listed with rfl | later
      · have covered := needed_le_qualified_cover (needed subject) subject assignment
        have kept := qualified_count_le_cover_all needed rest
          (cover (needed subject) subject assignment) subject
        change min (needed subject) _ ≤ (qualifiedCount subject (coverAll needed rest
          (cover (needed subject) subject assignment)) : Int)
        omega
      · have covered := ih (cover (needed first) first assignment) later
        have sameLength : (cover (needed first) first assignment).length = assignment.length := by
          have names := congrArg List.length (cover_teachers (needed first) first assignment)
          rwa [List.length_map, List.length_map] at names
        rw [sameLength] at covered
        exact covered

theorem ceil_quotient_eq {divisor : Int} (positive : 1 ≤ divisor) (amount : Int) :
    ceilQuotient amount divisor = ⌈(amount : ℚ) / divisor⌉ := by
  obtain ⟨natural, rfl⟩ := Int.eq_ofNat_of_zero_le (show 0 ≤ divisor by omega)
  have floor := Rat.floor_intCast_div_natCast (-amount) natural
  unfold ceilQuotient
  rw [Int.fdiv_eq_ediv_of_nonneg _ (by omega), ← floor, ← Int.ceil_neg]
  congr 1
  push_cast
  ring

theorem hours_per_teacher_given {Source : Type} {settings : Settings} {share : Int}
    (given : Gives (hoursPerTeacher settings : Sampling Source Int) share) :
    1 ≤ share ∧ (hoursPerTeacher settings : Sampling Source Int) = pure share := by
  unfold hoursPerTeacher at given ⊢
  split at given
  · exact absurd given not_gives_throw
  · dsimp only at given ⊢
    split at given
    · exact absurd given not_gives_throw
    · rename_i number
      split at given
      · exact absurd given not_gives_throw
      · rename_i finite
        rw [if_neg number, if_neg finite]
        obtain rfl := gives_pure given
        exact ⟨le_max_left _ _, rfl⟩

section Records

variable {grades : List Int}

theorem record_of_holder {entry : String × List String} (listed : entry ∈ assignment)
    (has : subject ∈ entry.2) :
    ∃ record ∈ qualificationsOf grades assignment, record.teacher = entry.1 ∧ record.subject = subject := by
  obtain ⟨teacher, subjects⟩ := entry
  obtain ⟨index, bound, same⟩ := List.mem_iff_getElem.1 has
  have numbered : (subject, index) ∈ subjects.zipIdx := by
    rw [List.mk_mem_zipIdx_iff_getElem?, List.getElem?_eq_getElem bound, same]
  exact ⟨_, List.mem_flatMap.2 ⟨(teacher, subjects), listed, List.mem_map_of_mem numbered⟩, rfl, rfl⟩

theorem grades_of_qualifications :
    ∀ record ∈ qualificationsOf grades assignment, record.grades = some grades := by
  intro record listed
  obtain ⟨⟨teacher, subjects⟩, -, own⟩ := List.mem_flatMap.1 listed
  obtain ⟨⟨subject, index⟩, -, rfl⟩ := List.mem_map.1 own
  rfl

def withRecord (records : List Qualification) (subject : String) (staff : List TeacherEntry) :
    List TeacherEntry :=
  staff.filter fun teacher => records.any fun record =>
    record.teacher == teacher.id && record.subject == subject

theorem qualified_count_le_with_record {staff : List TeacherEntry}
    (staffed : assignment.map (·.1) = staff.map (·.id)) :
    qualifiedCount subject assignment ≤
      (withRecord (qualificationsOf grades assignment) subject staff).length := by
  have counted : (withRecord (qualificationsOf grades assignment) subject staff).length =
      (staff.map (·.id)).countP fun id => (qualificationsOf grades assignment).any fun record =>
        record.teacher == id && record.subject == subject := by
    rw [withRecord, ← List.countP_eq_length_filter, List.countP_map]
    rfl
  rw [counted, ← staffed, List.countP_map]
  apply List.countP_mono_left
  intro entry listed has
  obtain ⟨record, recorded, own, ownSubject⟩ : ∃ record ∈ qualificationsOf grades assignment,
      record.teacher = entry.1 ∧ record.subject = subject :=
    record_of_holder listed (List.contains_iff_mem.1 has)
  exact List.any_eq_true.2 ⟨record, recorded, by simp [own, ownSubject]⟩

end Records

end SchoolTimetable.Sample
