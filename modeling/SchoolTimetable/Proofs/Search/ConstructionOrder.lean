import Mathlib.Data.List.Nodup
import Mathlib.Data.String.Basic
import Mathlib.Order.WithBot
import SchoolTimetable.Proofs.Entries.Sorting
import SchoolTimetable.Search.FirstFit

/-!
The order of construction as a lexicographic one. Lessons with distinct ids and slots at distinct times have one
ascending order each, whatever the order of the lists that they are given in.
-/

namespace SchoolTimetable

theorem sort_of_perm {Member Key : Type} [LinearOrder Key] (key : Member → Key) {atMost : Member → Member → Bool}
    (ordered : ∀ first second, atMost first second = true ↔ key first ≤ key second)
    {members others : List Member} (same : members.Perm others)
    (apart : ∀ first ∈ members, ∀ second ∈ members, key first = key second → first = second) :
    members.mergeSort atMost = others.mergeSort atMost := by
  refine List.Perm.eq_of_pairwise (fun first second listed otherListed below above => ?_)
    (sort_ascending ordered members) (sort_ascending ordered others)
    ((List.mergeSort_perm _ _).trans (same.trans (List.mergeSort_perm _ _).symm))
  have here := (List.mergeSort_perm _ _).mem_iff.1 listed
  have there := same.mem_iff.2 ((List.mergeSort_perm _ _).mem_iff.1 otherListed)
  exact apart first here second there (le_antisymm below above)

namespace Constrainedness

def roomRank : Option ℕ → WithTop ℕ
  | some rooms => WithTop.some rooms
  | none => ⊤

theorem rooms_before_iff (first second : Option ℕ) :
    roomsBefore first second = true ↔ roomRank first < roomRank second := by
  cases first with
  | none => exact ⟨fun below => (nomatch below), fun below => absurd below not_top_lt⟩
  | some own =>
      cases second with
      | none => exact ⟨fun _ => WithTop.coe_lt_top own, fun _ => rfl⟩
      | some other => exact decide_eq_true_iff.trans WithTop.coe_lt_coe.symm

theorem room_rank_inj {first second : Option ℕ} : roomRank first = roomRank second ↔ first = second := by
  refine ⟨fun same => ?_, congrArg roomRank⟩
  cases first <;> cases second <;> simp_all [roomRank]

def rank (place : Constrainedness) : ℕ ×ₗ WithTop ℕ ×ₗ ℤᵒᵈ ×ₗ String :=
  toLex (place.teachers, toLex (roomRank place.rooms, toLex (OrderDual.toDual place.students, place.id)))

theorem at_most_iff (first second : Constrainedness) : first.atMost second = true ↔ first.rank ≤ second.rank := by
  unfold atMost rank
  refine lex_at_most_iff Iff.rfl decide_eq_true_iff ?_
  refine lex_at_most_iff room_rank_inj.symm (rooms_before_iff _ _) ?_
  -- More students come first.
  exact lex_at_most_iff OrderDual.toDual_inj.symm decide_eq_true_iff decide_eq_true_iff

theorem id_of_rank {first second : Constrainedness} (same : first.rank = second.rank) : first.id = second.id :=
  congrArg (fun rank => (ofLex (ofLex (ofLex rank).2).2).2) same

end Constrainedness

def sortedLessons (lessons : List Lesson) : List Lesson :=
  lessons.mergeSort fun first second =>
    (Constrainedness.ofLesson first).atMost (Constrainedness.ofLesson second)

theorem sorted_lessons_of_perm {lessons others : List Lesson} (same : lessons.Perm others)
    (distinct : (lessons.map (·.id)).Nodup) : sortedLessons lessons = sortedLessons others := by
  refine sort_of_perm (fun lesson => (Constrainedness.ofLesson lesson).rank)
    (fun _ _ => Constrainedness.at_most_iff _ _) same fun first listed second others equal => ?_
  exact List.inj_on_of_nodup_map distinct listed others (Constrainedness.id_of_rank equal)

/-- The positions in the order of construction are those of the lessons in this order. -/
theorem lessons_in_order (lessons : List Lesson) :
    (constructionOrder lessons).map (lessons[·]?) = (sortedLessons lessons).map some := by
  have sorted : (lessons.zipIdx.mergeSort fun first second =>
      (Constrainedness.ofLesson first.1).atMost (Constrainedness.ofLesson second.1)).map Prod.fst =
      sortedLessons lessons := by
    unfold sortedLessons
    conv_rhs => rw [← List.zipIdx_map_fst 0 lessons]
    exact List.map_mergeSort fun _ _ _ _ => rfl
  unfold constructionOrder
  rw [← sorted, List.map_map, List.map_map]
  refine List.map_congr_left fun entry listed => ?_
  exact List.mem_zipIdx_iff_getElem?.1 ((List.mergeSort_perm _ _).mem_iff.1 listed)

theorem construction_slots_of_perm {slots others : List TimeSlot} (same : slots.Perm others)
    (distinct : (slots.map fun slot => (slot.day, slot.period)).Nodup) :
    constructionSlots slots = constructionSlots others := by
  refine sort_of_perm (fun slot : TimeSlot => toLex (slot.period, slot.day)) (fun first second => ?_) same
    fun first listed second others equal => ?_
  · rw [Prod.Lex.toLex_le_toLex]
    simp
  · have samePeriod : first.period = second.period := congrArg (fun time => (ofLex time).1) equal
    have sameDay : first.day = second.day := congrArg (fun time => (ofLex time).2) equal
    exact List.inj_on_of_nodup_map distinct listed others (Prod.ext sameDay samePeriod)

end SchoolTimetable
