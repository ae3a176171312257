import Mathlib.Data.Multiset.MapFold
import SchoolTimetable.Proofs.Search.PlacementModels

/-!
What choosing one variable after the other comes to. Each choice is one of its own group, and from the
other groups all that would meet it is struck out. So the variables that are chosen in the end are a
solution of the model.
-/

namespace SchoolTimetable

theorem Choice.meets_comm (first second : Choice) : first.meets second = second.meets first := by
  rw [Bool.eq_iff_iff, Choice.meets_iff, Choice.meets_iff, WeekPattern.overlaps_comm]
  constructor
  · intro meets
    rcases meets with ⟨overlaps, place, uses, usesToo⟩
    exact ⟨overlaps, place, usesToo, uses⟩
  · intro meets
    rcases meets with ⟨overlaps, place, uses, usesToo⟩
    exact ⟨overlaps, place, usesToo, uses⟩

namespace PlacementModel

variable {groups others : List (List Choice)} {group : List Choice} {chosen : List Choice}

theorem eq_nil_of_take_shortest (none : takeShortest groups = none) : groups = [] := by
  cases groups with
  | nil => rfl
  | cons group rest =>
      unfold takeShortest at none
      split at none
      · cases none
      · split at none <;> cases none

theorem perm_of_take_shortest (taken : takeShortest groups = some (group, others)) :
    groups.Perm (group :: others) := by
  induction groups generalizing group others with
  | nil => cases taken
  | cons first rest ih =>
      unfold takeShortest at taken
      split at taken
      · rename_i none
        rcases Prod.mk.inj (Option.some.inj taken) with ⟨rfl, rfl⟩
        rw [eq_nil_of_take_shortest none]
      · rename_i shortest remaining found
        split at taken
        · rcases Prod.mk.inj (Option.some.inj taken) with ⟨rfl, rfl⟩
          exact ((ih found).cons first).trans (.swap ..)
        · rcases Prod.mk.inj (Option.some.inj taken) with ⟨rfl, rfl⟩
          exact .refl _

structure Chooses (groups : List (List Choice)) (chosen : List Choice) : Prop where
  members : Multiset.Rel (fun choice group => choice ∈ group) (chosen : Multiset Choice)
    (groups : Multiset (List Choice))
  apart : chosen.Pairwise fun first second => first.meets second = false

theorem Chooses.nil : Chooses [] [] := ⟨.zero, .nil⟩

/-- A choice of one more group goes with those that were made of what does not meet it. -/
theorem Chooses.cons {choice : Choice} (listed : choice ∈ group)
    (chooses : Chooses (others.map fun other => other.filter fun next => !choice.meets next) chosen) :
    Chooses (group :: others) (choice :: chosen) := by
  have members := chooses.members
  rw [← Multiset.map_coe] at members
  have kept := Multiset.rel_map_right.1 members
  constructor
  · rw [← Multiset.cons_coe, ← Multiset.cons_coe]
    refine .cons listed ?_
    exact kept.mono fun _ _ _ _ member => (List.mem_filter.1 member).1
  · apply List.Pairwise.cons _ chooses.apart
    intro next nextListed
    rcases Multiset.exists_mem_of_rel_of_mem kept nextListed with ⟨other, -, member⟩
    simpa using (List.mem_filter.1 member).2

theorem Chooses.of_perm (chooses : Chooses others chosen) (same : groups.Perm others) :
    Chooses groups chosen := by
  have equal : (groups : Multiset (List Choice)) = others := Multiset.coe_eq_coe.2 same
  refine ⟨?_, chooses.apart⟩
  rw [equal]
  exact chooses.members

theorem chooses_of_choose {rounds : Nat} (enough : groups.length ≤ rounds)
    (found : choose rounds groups = some chosen) : Chooses groups chosen := by
  -- Each round takes one group away, so there are never more groups than rounds.
  induction rounds generalizing groups chosen with
  | zero =>
      rw [List.eq_nil_of_length_eq_zero (Nat.le_zero.1 enough), ← Option.some.inj found]
      exact .nil
  | succ rounds ih =>
      unfold choose at found
      split at found
      · cases found
      split at found
      · rename_i none
        rw [eq_nil_of_take_shortest none, ← Option.some.inj found]
        exact .nil
      · rename_i group others taken
        have same := perm_of_take_shortest taken
        have fewer := same.length_eq
        rcases List.exists_of_findSome?_eq_some found with ⟨choice, listed, chose⟩
        rcases Option.map_eq_some_iff.1 chose with ⟨rest, choseRest, rfl⟩
        rw [List.length_cons] at fewer
        have fits : (others.map fun other => other.filter fun next => !choice.meets next).length ≤
            rounds := by
          rw [List.length_map]
          omega
        exact (Chooses.cons listed (ih fits choseRest)).of_perm same

variable {timetable : Timetable}

theorem Chooses.nodup_lessons (chooses : Chooses (lessonGroups timetable) chosen) :
    (chosen.map (·.lesson)).Nodup := by
  have members := chooses.members
  unfold lessonGroups at members
  rw [← Multiset.map_coe] at members
  have numbered : Multiset.Rel (fun choice entry => choice.lesson = entry.2)
      (chosen : Multiset Choice) (timetable.lessons.zipIdx : Multiset (Lesson × Nat)) :=
    (Multiset.rel_map_right.1 members).mono fun _ _ _ _ member => (mem_lesson_choices member).1
  have same := Multiset.rel_eq.1 (Multiset.rel_map.2 numbered)
  rw [Multiset.map_coe, Multiset.map_coe] at same
  rw [(Multiset.coe_eq_coe.1 same).nodup_iff]
  exact nodup_numbers timetable.lessons

theorem solves_of_placer {taken : Choice → Bool} (answered : placer (build timetable) = some taken) :
    (build timetable).Solves taken := by
  rcases Option.map_eq_some_iff.1 answered with ⟨chosen, solved, rfl⟩
  unfold solve at solved
  split at solved
  · rename_i complete
    rcases build_cases timetable with ⟨-, incomplete⟩ | ⟨-, -, groups, -⟩
    · rw [incomplete] at complete
      cases complete
    rw [groups] at solved
    have chooses := chooses_of_choose (Nat.le_refl _) solved
    have distinct := List.inj_on_of_nodup_map chooses.nodup_lessons
    have symmetric : Std.Symm fun first second : Choice => first.meets second = false :=
      ⟨fun first second apart => (second.meets_comm first).trans apart⟩
    apply (solves_iff complete _).2
    constructor
    · intro position lesson lessonFound
      have grouped : lessonChoices timetable.slots position lesson ∈ lessonGroups timetable :=
        mem_lesson_groups.2 ⟨position, lesson, lessonFound, rfl⟩
      rcases Multiset.exists_mem_of_rel_of_mem (Multiset.rel_flip.2 chooses.members) grouped with
        ⟨choice, listed, member⟩
      refine ⟨choice, member, by simpa using listed, ?_⟩
      intro other otherMember otherTaken
      have sameLesson : other.lesson = choice.lesson :=
        (mem_lesson_choices otherMember).1.trans (mem_lesson_choices member).1.symm
      exact distinct (by simpa using otherTaken) listed sameLesson
    · intro first _ second _ takes takesOther meets
      by_contra different
      have apart := chooses.apart.forall (by simpa using takes) (by simpa using takesOther) different
      rw [apart] at meets
      cases meets
  · cases solved

end PlacementModel

end SchoolTimetable
