import Mathlib.Data.Nat.Basic
import SchoolTimetable.Proofs.Entries.Sorting

/-!
Sorting by ranks. The sort is stable, so with finitely many ranks it lists the members rank by rank, those of one
rank in the order in which they were.
-/

namespace SchoolTimetable

variable {Member : Type} {rank : Member → Nat} {members : List Member}

theorem sorted_pairwise (rank : Member → Nat) (members : List Member) :
    (members.mergeSort fun first second => rank first ≤ rank second).Pairwise (rank · ≤ rank ·) :=
  sort_ascending (fun _ _ => decide_eq_true_iff) members

theorem sorted_of_rank (rank : Member → Nat) (members : List Member) (place : Nat) :
    (members.mergeSort fun first second => rank first ≤ rank second).filter (rank · = place) =
      members.filter (rank · = place) :=
  sort_keeps_key (fun _ _ => decide_eq_true_iff) members place

def byRank (rank : Member → Nat) (bound : Nat) (members : List Member) : List Member :=
  (List.range bound).flatMap fun place => members.filter (rank · = place)

/-- In a list that is sorted by ranks the members of the last rank are at the end. -/
theorem last_rank_at_end {last : Nat} (sorted : members.Pairwise (rank · ≤ rank ·))
    (within : ∀ member ∈ members, rank member ≤ last) :
    members = members.filter (rank · < last) ++ members.filter (rank · = last) := by
  induction members with
  | nil => rfl
  | cons member rest ih =>
      obtain ⟨least, restSorted⟩ := List.pairwise_cons.1 sorted
      obtain ⟨own, others⟩ := List.forall_mem_cons.1 within
      rcases Nat.lt_or_eq_of_le own with lower | equal
      · rw [List.filter_cons, if_pos (decide_eq_true lower), List.filter_cons,
          if_neg (by simpa using Nat.ne_of_lt lower), List.cons_append, ← ih restSorted others]
      · have all : ∀ later ∈ member :: rest, rank later = last := by
          intro later listed
          refine Nat.le_antisymm (within later listed) ?_
          rcases List.mem_cons.1 listed with rfl | after
          · exact Nat.le_of_eq equal.symm
          · exact equal ▸ least later after
        rw [List.filter_eq_nil_iff.2 fun later listed => by simp [all later listed], List.nil_append,
          List.filter_eq_self.2 fun later listed => decide_eq_true (all later listed)]

theorem sorted_by_rank {bound : Nat} (sorted : members.Pairwise (rank · ≤ rank ·))
    (within : ∀ member ∈ members, rank member < bound) : members = byRank rank bound members := by
  induction bound generalizing members with
  | zero => exact List.eq_nil_iff_forall_not_mem.2 fun member listed => absurd (within member listed) (by simp)
  | succ last ih =>
      have lower := ih (sorted.filter (rank · < last)) fun member kept => by
        simpa using (List.mem_filter.1 kept).2
      have levels : byRank rank last (members.filter (rank · < last)) = byRank rank last members := by
        unfold byRank
        apply List.flatMap_congr
        intro place listed
        have low := List.mem_range.1 listed
        rw [List.filter_filter]
        apply List.filter_congr
        intro member _
        by_cases same : rank member = place
        · simp [same, low]
        · simp [same]
      calc members = members.filter (rank · < last) ++ members.filter (rank · = last) :=
            last_rank_at_end sorted fun member listed => Nat.le_of_lt_succ (within member listed)
        _ = byRank rank last members ++ members.filter (rank · = last) := by rw [← levels, ← lower]
        _ = byRank rank (last + 1) members := by
            unfold byRank
            rw [List.range_succ, List.flatMap_append, List.flatMap_singleton]

theorem sort_by_rank {bound : Nat} (within : ∀ member ∈ members, rank member < bound) :
    members.mergeSort (fun first second => rank first ≤ rank second) = byRank rank bound members := by
  have sorted := sorted_pairwise rank members
  rw [sorted_by_rank sorted fun member listed => within member ((List.mergeSort_perm _ _).mem_iff.1 listed)]
  unfold byRank
  simp only [sorted_of_rank]

end SchoolTimetable
