import Mathlib.Algebra.BigOperators.Group.List.Basic
import Mathlib.Algebra.Order.BigOperators.Group.List
import Mathlib.Data.Finset.Card
import Mathlib.Data.List.ProdSigma
import Mathlib.Data.List.Sections
import SchoolTimetable.Proofs.Search.Ranges
import SchoolTimetable.Proofs.Search.Runs

/-!
How often a search can improve. There are only so many placements of all lessons in their ranges, and no
two that are published are the same, as each scores better than the one before.
-/

namespace SchoolTimetable

def Lesson.placementsWithin (slots : List TimeSlot) (lesson : Lesson) : List Placement :=
  (slots ×ˢ lesson.roomOptions ×ˢ lesson.candidateTeachers).map fun (slot, room, teacher) =>
    ⟨some slot, room, some teacher⟩

def Timetable.assignments (timetable : Timetable) : List Snapshot :=
  (timetable.lessons.map fun lesson => lesson.placementsWithin timetable.slots).sections

theorem Lesson.mem_placements_within {slots : List TimeSlot} {lesson : Lesson} {placement : Placement}
    (inRange : (lesson.placed placement).InRange slots) : placement ∈ lesson.placementsWithin slots := by
  obtain ⟨slot, slotListed, hasSlot⟩ := inRange.slot
  obtain ⟨teacher, candidate, hasTeacher⟩ := inRange.teacher
  have offered : placement.room ∈ lesson.roomOptions := by
    cases found : placement.room with
    | none =>
        have noRooms : lesson.candidateRooms = [] := inRange.roomless.1 found
        simp [roomOptions, noRooms]
    | some room =>
        have member : room ∈ lesson.candidateRooms := inRange.room room found
        simp [roomOptions, List.ne_nil_of_mem member, member]
  refine List.mem_map.2 ⟨(slot, placement.room, teacher), ?_, ?_⟩
  · exact List.pair_mem_product.2 ⟨slotListed, List.pair_mem_product.2 ⟨offered, candidate⟩⟩
  · change placement.slot = some slot at hasSlot
    change placement.teacher = some teacher at hasTeacher
    dsimp only
    rw [← hasSlot, ← hasTeacher]

theorem Lesson.placements_within_length_le (timetable : Timetable) (lesson : Lesson) :
    (lesson.placementsWithin timetable.slots).length ≤ Solver.placementBound timetable lesson := by
  have rooms : lesson.roomOptions.length ≤ lesson.candidateRooms.length + 2 := by
    unfold roomOptions
    split
    · simp
    · rw [List.length_map]
      omega
  unfold placementsWithin Solver.placementBound
  rw [List.length_map, List.length_product, List.length_product, Nat.mul_assoc]
  refine Nat.mul_le_mul ?_ (Nat.mul_le_mul rooms ?_) <;> omega

namespace Timetable

variable {timetable : Timetable}

theorem mem_assignments {snapshot : Snapshot} (fits : snapshot.length = timetable.lessons.length)
    (inRange : ∀ lesson ∈ timetable.lessonsWith snapshot, lesson.InRange timetable.slots) :
    snapshot ∈ timetable.assignments := by
  unfold assignments lessonsWith at *
  rw [List.mem_sections]
  generalize timetable.lessons = lessons at fits inRange
  induction lessons generalizing snapshot with
  | nil =>
      rw [List.eq_nil_of_length_eq_zero fits]
      exact .nil
  | cons lesson rest ih =>
      cases snapshot with
      | nil => cases fits
      | cons placement others =>
          rw [List.zipWith_cons_cons, List.forall_mem_cons] at inRange
          have here := Lesson.mem_placements_within inRange.1
          exact .cons here (ih (Nat.succ.inj fits) inRange.2)

theorem Arranges.mem_assignments {base : Timetable} (arranges : timetable.Arranges base)
    (inRange : timetable.InRange) : timetable.snapshot ∈ base.assignments := by
  apply Timetable.mem_assignments
  · exact (snapshot_length timetable).trans arranges.length
  · rw [arranges.lessons_with_snapshot, ← arranges.slots]
    exact inRange

theorem sections_length {Member : Type} (groups : List (List Member)) :
    groups.sections.length = (groups.map List.length).prod := by
  induction groups with
  | nil => rfl
  | cons group rest ih =>
      rw [List.sections, List.length_flatMap, List.map_cons, List.prod_cons, ← ih]
      simp [List.map_const', List.sum_replicate, Nat.mul_comm]

/-- The bound on the improvements counts at least all placements in the ranges. -/
theorem assignments_length_le (timetable : Timetable) :
    timetable.assignments.length ≤ Solver.improvementBound timetable := by
  unfold assignments Solver.improvementBound
  rw [sections_length]
  generalize timetable.lessons = lessons
  induction lessons with
  | nil => exact le_refl 1
  | cons lesson rest ih =>
      rw [List.map_cons, List.map_cons, List.prod_cons, List.foldr_cons]
      exact Nat.mul_le_mul (Lesson.placements_within_length_le timetable lesson) ih

end Timetable

namespace Solver.PublishedFrom

variable {timetable : Timetable} {weights : Weights} {constructed : Director} {scores : List Score}
  {published : List Best}

/-- Best placements with the same snapshot have the same score, so none comes twice. -/
theorem nodup_snapshots (log : PublishedFrom timetable weights constructed scores published) :
    (published.map (·.snapshot)).Nodup := by
  refine List.pairwise_map.2 (log.increasing.imp_of_mem ?_)
  intro later earlier laterListed earlierListed better same
  rw [log.exact later laterListed, log.exact earlier earlierListed, same] at better
  exact lt_irrefl _ better

/-- There are no more publications than placements of all lessons in their ranges. -/
theorem length_le_assignments (log : PublishedFrom timetable weights constructed scores published)
    (inRange : ∀ best ∈ published,
      ∀ lesson ∈ timetable.lessonsWith best.snapshot, lesson.InRange timetable.slots) :
    published.length ≤ timetable.assignments.toFinset.card := by
  have within : (published.map (·.snapshot)).toFinset ⊆ timetable.assignments.toFinset := by
    intro snapshot listed
    obtain ⟨best, member, rfl⟩ := List.mem_map.1 (List.mem_toFinset.1 listed)
    exact List.mem_toFinset.2 (Timetable.mem_assignments (log.fits best member) (inRange best member))
  calc published.length
      = (published.map (·.snapshot)).length := (List.length_map _).symm
    _ = (published.map (·.snapshot)).toFinset.card :=
        (List.toFinset_card_of_nodup log.nodup_snapshots).symm
    _ ≤ timetable.assignments.toFinset.card := Finset.card_le_card within

end Solver.PublishedFrom

end SchoolTimetable
