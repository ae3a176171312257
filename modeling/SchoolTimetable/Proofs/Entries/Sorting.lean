import Mathlib.Data.List.Basic
import Mathlib.Data.Prod.Lex
import Mathlib.Order.Lattice

/-!
Sorting by keys. The sort is stable: members come in the order of their keys, and those of one key stay as they were.
A comparison that asks for one value after the other is that of lexicographic keys.
-/

namespace SchoolTimetable

/-- Where two values differ they decide, and where they are the same what comes later does. -/
theorem lex_at_most_iff {Value First Rest : Type} [DecidableEq Value] [LinearOrder First] [LinearOrder Rest]
    {value another : Value} {own other : First} {rest others : Rest} {before later : Bool}
    (same_iff : value = another ↔ own = other) (before_iff : before = true ↔ own < other)
    (later_iff : later = true ↔ rest ≤ others) :
    (if value ≠ another then before else later) = true ↔ toLex (own, rest) ≤ toLex (other, others) := by
  rw [Prod.Lex.toLex_le_toLex]
  dsimp only
  by_cases same : value = another
  · rw [if_neg (not_not.2 same), later_iff, same_iff.1 same]
    simp
  · rw [if_pos same, before_iff]
    simp [mt same_iff.2 same]

section ByKey

variable {Member Key : Type} [LinearOrder Key] {key : Member → Key} {atMost : Member → Member → Bool}
  (ordered : ∀ first second, atMost first second = true ↔ key first ≤ key second)

include ordered

theorem at_most_trans (first second third : Member) (before : atMost first second = true)
    (after : atMost second third = true) : atMost first third = true := by
  rw [ordered] at before after ⊢
  exact before.trans after

theorem at_most_total (first second : Member) : (atMost first second || atMost second first) = true := by
  rw [Bool.or_eq_true, ordered, ordered]
  exact le_total _ _

theorem sort_ascending (members : List Member) : (members.mergeSort atMost).Pairwise (key · ≤ key ·) :=
  (List.pairwise_mergeSort (at_most_trans ordered) (at_most_total ordered) members).imp fun before =>
    (ordered _ _).1 before

theorem sort_keeps_key (members : List Member) (value : Key) :
    (members.mergeSort atMost).filter (key · = value) = members.filter (key · = value) := by
  have level : (members.filter (key · = value)).Pairwise fun first second => atMost first second = true := by
    refine List.pairwise_of_forall_mem_list fun first firstListed second secondListed => ?_
    have own := of_decide_eq_true (List.mem_filter.1 firstListed).2
    have other := of_decide_eq_true (List.mem_filter.1 secondListed).2
    exact (ordered _ _).2 (own.trans other.symm).le
  have kept : (members.filter (key · = value)).Sublist (members.mergeSort atMost) :=
    List.sublist_mergeSort (at_most_trans ordered) (at_most_total ordered) level List.filter_sublist
  have within := kept.filter (key · = value)
  simp only [List.filter_filter, Bool.and_self] at within
  exact (within.eq_of_length ((List.mergeSort_perm members _).filter _).length_eq.symm).symm

end ByKey

end SchoolTimetable
