import Mathlib.Algebra.BigOperators.Group.List.Basic
import Mathlib.Algebra.Group.Basic
import Mathlib.Algebra.Ring.Int.Defs
import Mathlib.Order.Defs.LinearOrder
import SchoolTimetable.Score

/-!
Scores add up as pairs of whole numbers and are ordered by their hard part first. Sums of scores are
sums in this group, and two scores are always comparable.
-/

namespace SchoolTimetable.Score

instance : AddCommGroup Score where
  add_assoc first second third := ext_parts (Int.add_assoc ..) (Int.add_assoc ..)
  zero_add score := ext_parts (Int.zero_add _) (Int.zero_add _)
  add_zero score := ext_parts (Int.add_zero _) (Int.add_zero _)
  add_comm first second := ext_parts (Int.add_comm ..) (Int.add_comm ..)
  neg_add_cancel score := ext_parts (Int.add_left_neg _) (Int.add_left_neg _)
  sub_eq_add_neg first second := ext_parts Int.sub_eq_add_neg Int.sub_eq_add_neg
  nsmul := nsmulRec
  zsmul := zsmulRec

theorem max_eq_ite (first second : Score) :
    max first second = if first ≤ second then second else first := by
  change (if first < second then second else first) = if first ≤ second then second else first
  by_cases below : first < second
  · have atMost : first ≤ second := by
      rw [lt_iff] at below
      rw [le_iff]
      omega
    rw [if_pos below, if_pos atMost]
  · by_cases atMost : first ≤ second
    · have same : first = second := by
        rw [lt_iff] at below
        rw [le_iff] at atMost
        exact ext_parts (by omega) (by omega)
      rw [if_neg below, if_pos atMost, same]
    · rw [if_neg below, if_neg atMost]

instance : LinearOrder Score where
  le_refl score := by
    rw [le_iff]
    omega
  le_trans first second third := by
    simp only [le_iff]
    omega
  lt_iff_le_not_ge first second := by
    simp only [le_iff, lt_iff]
    omega
  le_antisymm first second := by
    simp only [le_iff]
    intro forward backward
    exact ext_parts (by omega) (by omega)
  le_total first second := by
    simp only [le_iff]
    omega
  toDecidableLE := inferInstance
  toDecidableLT := inferInstance
  toDecidableEq := inferInstance
  max_def := max_eq_ite

theorem sum_eq (scores : List Score) : sum scores = scores.sum := by
  simp only [sum, List.sum_eq_foldl]

theorem sum_hard (scores : List Score) : scores.sum.hard = (scores.map (·.hard)).sum := by
  induction scores with
  | nil => rfl
  | cons score rest ih => rw [List.sum_cons, add_hard, ih, List.map_cons, List.sum_cons]

theorem sum_soft (scores : List Score) : scores.sum.soft = (scores.map (·.soft)).sum := by
  induction scores with
  | nil => rfl
  | cons score rest ih => rw [List.sum_cons, add_soft, ih, List.map_cons, List.sum_cons]

theorem nsmul_hard (count : Nat) (score : Score) : (count • score).hard = count * score.hard := by
  induction count with
  | zero => simp
  | succ count ih => rw [succ_nsmul, add_hard, ih, Int.natCast_succ, Int.add_mul, Int.one_mul]

theorem nsmul_soft (count : Nat) (score : Score) : (count • score).soft = count * score.soft := by
  induction count with
  | zero => simp
  | succ count ih => rw [succ_nsmul, add_soft, ih, Int.natCast_succ, Int.add_mul, Int.one_mul]

end SchoolTimetable.Score
