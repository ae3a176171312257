import Mathlib.Algebra.Order.BigOperators.Group.List
import SchoolTimetable.Proofs.Problem.Hours
import SchoolTimetable.Proofs.Sample.Drafts

/-!
The hours that sample schools give their classes. Hours of B weeks count for nothing behind those of A weeks.
They are never more than these, so a class keeps within the limit also where its weeks are counted apart.
-/

namespace SchoolTimetable.Sample

open Problem

variable {settings : Settings} {schoolClass : ClassEntry} {total : Int} {hasA : Bool}
  {subject : StockSubject} {subjects rest : List StockSubject}

def requirementOf (schoolClass : ClassEntry) (subject : StockSubject) : Requirement :=
  ⟨some s!"{schoolClass.id}-{subject.id}", schoolClass.id, subject.id, subject.weeklyHours, subject.pattern,
    []⟩

def countedHours (hasA : Bool) (subject : StockSubject) : Int :=
  if subject.pattern = .b ∧ hasA then 0 else subject.weeklyHours

/-- A subject is passed over, or it keeps within the limit and is required. -/
theorem class_hours_step :
    classHours settings schoolClass total hasA (subject :: rest) =
        classHours settings schoolClass total hasA rest ∨
      total + countedHours hasA subject ≤ settings.classHours ∧
        classHours settings schoolClass total hasA (subject :: rest) =
          requirementOf schoolClass subject ::
            classHours settings schoolClass (total + countedHours hasA subject)
              (hasA || subject.pattern = .a) rest := by
  have step : classHours settings schoolClass total hasA (subject :: rest) =
      if settings.classHours < total + countedHours hasA subject then
        classHours settings schoolClass total hasA rest
      else requirementOf schoolClass subject ::
        classHours settings schoolClass (total + countedHours hasA subject)
          (hasA || subject.pattern = .a) rest := rfl
  rw [step]
  split
  · exact .inl rfl
  · rename_i fits
    exact .inr ⟨Int.not_lt.1 fits, rfl⟩

theorem mem_class_hours {requirement : Requirement}
    (listed : requirement ∈ classHours settings schoolClass total hasA subjects) :
    ∃ subject ∈ subjects, requirement = requirementOf schoolClass subject := by
  induction subjects generalizing total hasA with
  | nil => cases listed
  | cons subject rest ih =>
      have later : ∀ {total hasA}, requirement ∈ classHours settings schoolClass total hasA rest →
          ∃ other ∈ subject :: rest, requirement = requirementOf schoolClass other := by
        intro total hasA listed
        obtain ⟨other, known, same⟩ := ih listed
        exact ⟨other, List.mem_cons_of_mem subject known, same⟩
      rcases class_hours_step with passed | ⟨-, taken⟩
      · exact later (passed ▸ listed)
      · rw [taken] at listed
        rcases List.mem_cons.1 listed with rfl | listed
        · exact ⟨subject, List.mem_cons_self, rfl⟩
        · exact later listed

variable (hours : ∀ subject ∈ subjects, 1 ≤ subject.weeklyHours)

include hours

theorem class_hours_pos :
    ∀ requirement ∈ classHours settings schoolClass total hasA subjects, 1 ≤ requirement.weeklyHours := by
  intro requirement listed
  obtain ⟨subject, known, rfl⟩ := mem_class_hours listed
  exact hours subject known

theorem limit_nonneg_of_hours (start : 0 ≤ total)
    (some : classHours settings schoolClass total hasA subjects ≠ []) : 0 ≤ settings.classHours := by
  induction subjects with
  | nil => exact absurd rfl some
  | cons subject rest ih =>
      obtain ⟨own, others⟩ := List.forall_mem_cons.1 hours
      rcases class_hours_step with passed | ⟨fits, -⟩
      · exact ih others (passed ▸ some)
      · unfold countedHours at fits
        split at fits <;> omega

omit hours in
def lateHours (subjects : List StockSubject) : Int :=
  ((subjects.filter (·.pattern = .b)).map (·.weeklyHours)).sum

omit hours in
theorem late_hours_cons (subject : StockSubject) (rest : List StockSubject) :
    lateHours (subject :: rest) =
      (if subject.pattern = .b then subject.weeklyHours else 0) + lateHours rest := by
  unfold lateHours
  by_cases late : subject.pattern = .b <;> simp [late]

theorem late_hours_of_class_hours :
    hoursOf (classHours settings schoolClass total hasA subjects) .b ≤ lateHours subjects := by
  induction subjects generalizing total hasA with
  | nil => exact Int.le_refl 0
  | cons subject rest ih =>
      obtain ⟨own, others⟩ := List.forall_mem_cons.1 hours
      rw [late_hours_cons]
      rcases class_hours_step with passed | ⟨-, taken⟩
      · rw [passed]
        have later : hoursOf (classHours settings schoolClass total hasA rest) .b ≤ lateHours rest :=
          ih others
        split <;> omega
      · rw [taken, hours_of_cons]
        exact Int.add_le_add_left (ih others) _

/-- With hours of A weeks that are not below all of B weeks these are never more. -/
theorem late_hours_covered (settings : Settings) (schoolClass : ClassEntry) (total : Int) (hasA : Bool)
    {aHours : Int} (late : lateHours subjects ≤ aHours) :
    hoursOf (classHours settings schoolClass total hasA subjects) .b ≤
      aHours + hoursOf (classHours settings schoolClass total hasA subjects) .a := by
  have bWeeks : hoursOf (classHours settings schoolClass total hasA subjects) .b ≤ lateHours subjects :=
    late_hours_of_class_hours hours
  have aWeeks : 0 ≤ hoursOf (classHours settings schoolClass total hasA subjects) .a :=
    hours_of_nonneg (class_hours_pos hours)
  omega

theorem hours_behind_a_weeks (schoolClass : ClassEntry) (start : total ≤ settings.classHours) :
    total + hoursOf (classHours settings schoolClass total true subjects) .every +
      hoursOf (classHours settings schoolClass total true subjects) .a ≤ settings.classHours := by
  induction subjects generalizing total with
  | nil =>
      change total + 0 + 0 ≤ settings.classHours
      omega
  | cons subject rest ih =>
      obtain ⟨own, others⟩ := List.forall_mem_cons.1 hours
      rcases class_hours_step with passed | ⟨fits, taken⟩
      · rw [passed]
        exact ih others start
      · have later := ih others fits
        rw [taken, Bool.true_or, hours_of_cons, hours_of_cons]
        unfold countedHours at later ⊢
        cases week : subject.pattern <;> simp [requirementOf, week] at later ⊢ <;> omega

/-- Where no A week has fewer hours than all B weeks, a class needs no more slots than the limit. -/
theorem slots_within_limit (start : total ≤ settings.classHours)
    (paired : ∀ subject ∈ subjects, subject.pattern = .a → lateHours subjects ≤ subject.weeklyHours) :
    total + slotsNeeded (classHours settings schoolClass total false subjects) ≤ settings.classHours := by
  unfold slotsNeeded
  induction subjects generalizing total with
  | nil =>
      change total + (0 + max 0 0) ≤ settings.classHours
      omega
  | cons subject rest ih =>
      obtain ⟨own, others⟩ := List.forall_mem_cons.1 hours
      have restLate : lateHours rest ≤ lateHours (subject :: rest) := by
        rw [late_hours_cons]
        split <;> omega
      have restPaired : ∀ other ∈ rest, other.pattern = .a → lateHours rest ≤ other.weeklyHours :=
        fun other listed week =>
          restLate.trans (paired other (List.mem_cons_of_mem subject listed) week)
      rcases class_hours_step with passed | ⟨fits, taken⟩
      · rw [passed]
        exact ih others start restPaired
      · have later := ih others fits restPaired
        rw [taken, hours_of_cons, hours_of_cons, hours_of_cons]
        cases week : subject.pattern with
        | every =>
            simp [requirementOf, countedHours, week] at later ⊢
            omega
        | a =>
            have paid : subject.weeklyHours = countedHours false subject := by simp [countedHours]
            have behind := hours_behind_a_weeks others schoolClass fits
            have covered := late_hours_covered others settings schoolClass
              (total + countedHours false subject) true (restLate.trans (paired subject List.mem_cons_self week))
            simp [requirementOf, week] at covered behind ⊢
            omega
        | b =>
            simp [requirementOf, countedHours, week] at later ⊢
            omega

omit hours

section Requirements

variable {groups : List ClassEntry} {taught : List StockSubject}

/-- The subjects in the order in which classes are given hours of them. -/
def lateLast (taught : List StockSubject) : List StockSubject :=
  (taught.partition (·.pattern = .b)).2 ++ (taught.partition (·.pattern = .b)).1

theorem late_last_perm (taught : List StockSubject) : (lateLast taught).Perm taught := by
  unfold lateLast
  rw [List.partition_eq_filter_filter]
  exact List.perm_append_comm.trans (List.filter_append_perm _ _)

theorem requirements_eq (settings : Settings) (groups : List ClassEntry) (taught : List StockSubject) :
    requirements settings groups taught =
      groups.flatMap fun schoolClass => classHours settings schoolClass 0 false (lateLast taught) := rfl

theorem stock_hours (known : taught ⊆ stock) : ∀ subject ∈ lateLast taught, 1 ≤ subject.weeklyHours := by
  have all : ∀ subject ∈ stock, 1 ≤ subject.weeklyHours := by decide
  exact fun subject listed => all subject (known ((late_last_perm taught).subset listed))

theorem late_hours_of_stock (known : taught ⊆ stock) (distinct : (taught.map (·.id)).Nodup) :
    lateHours (lateLast taught) ≤ 1 := by
  have single : ∀ subject ∈ stock, subject.pattern = .b →
      subject ∈ stock.filter (·.pattern = .b) ∧ subject.weeklyHours = 1 := by decide
  have late : ∀ subject ∈ (lateLast taught).filter (·.pattern = .b),
      subject ∈ stock.filter (·.pattern = .b) ∧ subject.weeklyHours = 1 := by
    intro subject listed
    obtain ⟨listed, week⟩ := List.mem_filter.1 listed
    exact single subject (known ((late_last_perm taught).subset listed)) (of_decide_eq_true week)
  have nodup : ((lateLast taught).filter (·.pattern = .b)).Nodup :=
    ((late_last_perm taught).nodup_iff.2 distinct.of_map).filter _
  have length := (List.subperm_of_subset nodup fun subject listed => (late subject listed).1).length_le
  have hours : ∀ count ∈ ((lateLast taught).filter (·.pattern = .b)).map (·.weeklyHours), count = 1 := by
    intro count listed
    obtain ⟨subject, among, rfl⟩ := List.mem_map.1 listed
    exact (late subject among).2
  unfold lateHours
  rw [List.sum_eq_card_nsmul _ 1 hours, List.length_map, nsmul_one, Nat.cast_le_one]
  exact length

theorem stock_paired (known : taught ⊆ stock) (distinct : (taught.map (·.id)).Nodup) :
    ∀ subject ∈ lateLast taught, subject.pattern = .a →
      lateHours (lateLast taught) ≤ subject.weeklyHours :=
  fun subject listed _ => (late_hours_of_stock known distinct).trans (stock_hours known subject listed)

theorem class_hours_of_class (other schoolClass : ClassEntry) :
    (classHours settings other total hasA subjects).filter (·.schoolClass = schoolClass.id) =
      if other.id = schoolClass.id then classHours settings other total hasA subjects else [] := by
  split
  · rename_i same
    rw [List.filter_eq_self]
    intro requirement given
    obtain ⟨subject, -, rfl⟩ := mem_class_hours given
    exact decide_eq_true same
  · rename_i different
    rw [List.filter_eq_nil_iff]
    intro requirement given
    obtain ⟨subject, -, rfl⟩ := mem_class_hours given
    exact fun same => different (of_decide_eq_true same)

/-- With distinct ids the requirements of a class are those that it was given. -/
theorem requirements_of_class (distinct : (groups.map (·.id)).Nodup) {schoolClass : ClassEntry}
    (listed : schoolClass ∈ groups) :
    (requirements settings groups taught).filter (·.schoolClass = schoolClass.id) =
      classHours settings schoolClass 0 false (lateLast taught) := by
  rw [requirements_eq, List.filter_flatMap]
  simp only [class_hours_of_class]
  induction groups with
  | nil => cases listed
  | cons first rest ih =>
      obtain ⟨absent, restDistinct⟩ := List.nodup_cons.1 distinct
      rw [List.flatMap_cons]
      rcases List.mem_cons.1 listed with rfl | later
      · have others : rest.flatMap (fun other => if other.id = schoolClass.id then
            classHours settings other 0 false (lateLast taught) else []) = [] := by
          rw [List.flatMap_eq_nil_iff]
          intro other member
          exact if_neg fun same => absent (List.mem_map.2 ⟨other, member, same⟩)
        rw [if_pos rfl, others, List.append_nil]
      · have different : first.id ≠ schoolClass.id := fun same =>
          absent (List.mem_map.2 ⟨schoolClass, later, same.symm⟩)
        rw [if_neg different, List.nil_append]
        exact ih restDistinct later

theorem requirements_within_limit (known : taught ⊆ stock) (distinctSubjects : (taught.map (·.id)).Nodup)
    (distinct : (groups.map (·.id)).Nodup) (some : requirements settings groups taught ≠ [])
    {schoolClass : ClassEntry} (listed : schoolClass ∈ groups) :
    slotsNeeded ((requirements settings groups taught).filter (·.schoolClass = schoolClass.id)) ≤
      settings.classHours := by
  have hours := stock_hours known
  have start : 0 ≤ settings.classHours := by
    by_contra below
    apply some
    rw [requirements_eq, List.flatMap_eq_nil_iff]
    intro other _
    by_contra given
    exact below (limit_nonneg_of_hours hours (Int.le_refl 0) given)
  rw [requirements_of_class distinct listed]
  rw [← Int.zero_add (slotsNeeded _)]
  exact slots_within_limit hours start (stock_paired known distinctSubjects)

end Requirements

end SchoolTimetable.Sample
