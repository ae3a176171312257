import Mathlib.Algebra.BigOperators.Group.Finset.Basic
import Mathlib.Algebra.BigOperators.Group.Finset.Sigma
import Mathlib.Tactic.Abel
import SchoolTimetable.Proofs.Evaluation.Pairs

/-!
The score of a timetable as a sum over positions: what the lesson at each position scores by itself,
and what each pair of an earlier and a later position scores together. The evaluation from scratch
yields this sum, although it only looks at pairs that share a key.
-/

namespace SchoolTimetable

open Finset

/-- The score of the lesson at a position by itself; no lesson scores nothing. -/
def lessonScoreAt (weights : Weights) (lessons : List Lesson) (position : Nat) : Score :=
  lessons[position]?.elim 0 (lessonScore weights)

def pairScoreAt (weights : Weights) (lessons : List Lesson) (left right : Nat) : Score :=
  match lessons[left]?, lessons[right]? with
  | some first, some second => pairScore weights first second
  | _, _ => 0

/-- The score of the lessons at some positions, each by itself and all of them in pairs. -/
def scoreOn (weights : Weights) (lessons : List Lesson) (positions : Finset Nat) : Score :=
  ∑ left ∈ positions, lessonScoreAt weights lessons left +
    ∑ left ∈ positions, ∑ right ∈ positions with left < right, pairScoreAt weights lessons left right

theorem pair_score_at_swap (weights : Weights) (lessons : List Lesson) (left right : Nat) :
    pairScoreAt weights lessons left right = pairScoreAt weights lessons right left := by
  unfold pairScoreAt
  cases lessons[left]? with
  | none => cases lessons[right]? <;> rfl
  | some first =>
      cases lessons[right]? with
      | none => rfl
      | some second => exact pair_score_swap weights first second

theorem sum_map_eq_range_sum {Member : Type} (members : List Member) (value : Member → Score) :
    (members.map value).sum = ∑ position ∈ range members.length, members[position]?.elim 0 value := by
  induction members with
  | nil => rfl
  | cons first rest ih =>
      rw [List.map_cons, List.sum_cons, List.length_cons, sum_range_succ', ih, add_comm]
      rfl

theorem lesson_match_sum (weights : Weights) (lessons : List Lesson) :
    ((lessons.flatMap fun lesson => (lessonMatches weights lesson).map fun impact =>
        (⟨impact.1, impact.2, [lesson.id]⟩ : ConstraintMatch)).map (·.score)).sum =
      ∑ position ∈ range lessons.length, lessonScoreAt weights lessons position := by
  unfold lessonScoreAt
  rw [← sum_map_eq_range_sum lessons (lessonScore weights)]
  induction lessons with
  | nil => rfl
  | cons lesson rest ih =>
      rw [List.flatMap_cons, List.map_append, List.sum_append, ih, List.map_cons, List.sum_cons,
        lessonScore, total_score_eq, List.map_map]
      rfl

theorem pair_match_sum (weights : Weights) (lessons : List Lesson) (pairs : List (Nat × Nat)) :
    ((pairs.flatMap fun pair =>
        match lessons[pair.1]?, lessons[pair.2]? with
        | some first, some second =>
            (pairMatches weights first second).map fun impact =>
              (⟨impact.1, impact.2, [first.id, second.id]⟩ : ConstraintMatch)
        | _, _ => []).map (·.score)).sum =
      (pairs.map fun pair => pairScoreAt weights lessons pair.1 pair.2).sum := by
  induction pairs with
  | nil => rfl
  | cons pair rest ih =>
      rw [List.flatMap_cons, List.map_append, List.sum_append, ih, List.map_cons, List.sum_cons]
      congr 1
      unfold pairScoreAt
      cases lessons[pair.1]? with
      | none => rfl
      | some first =>
          cases lessons[pair.2]? with
          | none => rfl
          | some second =>
              simp only [pairScore, total_score_eq, List.map_map]
              rfl

/-- The candidate pairs carry the whole score of pairs: all others score nothing. -/
theorem candidate_pair_sum (weights : Weights) (lessons : List Lesson) :
    ((candidatePairs lessons).map fun pair => pairScoreAt weights lessons pair.1 pair.2).sum =
      ∑ left ∈ range lessons.length, ∑ right ∈ range lessons.length with left < right,
        pairScoreAt weights lessons left right := by
  rw [← List.sum_toFinset _ (nodup_candidate_pairs lessons)]
  have nested : (∑ left ∈ range lessons.length, ∑ right ∈ range lessons.length with left < right,
        pairScoreAt weights lessons left right) =
      ∑ pair ∈ (range lessons.length ×ˢ range lessons.length) with pair.1 < pair.2,
        pairScoreAt weights lessons pair.1 pair.2 := by
    simp only [sum_filter, sum_product]
  rw [nested]
  -- A pair in order that is no candidate shares no key.
  apply sum_subset
  · intro pair member
    obtain ⟨below, first, second, firstFound, secondFound, -⟩ :=
      (mem_candidate_pairs lessons pair.1 pair.2).1 (List.mem_toFinset.1 member)
    obtain ⟨leftBound, -⟩ := List.getElem?_eq_some_iff.1 firstFound
    obtain ⟨rightBound, -⟩ := List.getElem?_eq_some_iff.1 secondFound
    simp [leftBound, rightBound, below]
  · intro pair inRange absent
    have below : pair.1 < pair.2 := (mem_filter.1 inRange).2
    unfold pairScoreAt
    cases firstFound : lessons[pair.1]? with
    | none => rfl
    | some first =>
        cases secondFound : lessons[pair.2]? with
        | none => rfl
        | some second =>
            apply pair_score_of_no_shared_key
            intro shared
            apply absent
            exact List.mem_toFinset.2 ((mem_candidate_pairs lessons pair.1 pair.2).2
              ⟨below, first, second, firstFound, secondFound, shared⟩)

/-- The evaluation from scratch counts every lesson and every pair of lessons once. -/
theorem full_score_eq_score_on (weights : Weights) (lessons : List Lesson) :
    fullScore weights lessons = scoreOn weights lessons (range lessons.length) := by
  have pairs := (pair_match_sum weights lessons (candidatePairs lessons)).trans
    (candidate_pair_sum weights lessons)
  rw [fullScore, Score.sum_eq, constraintMatches, List.map_append, List.sum_append]
  exact congrArg₂ (· + ·) (lesson_match_sum weights lessons) pairs

/-- One more position adds its own score and its pairs with the positions that were there. -/
theorem score_on_insert (weights : Weights) (lessons : List Lesson) {positions : Finset Nat}
    {position : Nat} (absent : position ∉ positions) :
    scoreOn weights lessons (insert position positions) =
      scoreOn weights lessons positions + (lessonScoreAt weights lessons position +
        ∑ other ∈ positions, pairScoreAt weights lessons position other) := by
  have outer : (∑ left ∈ positions, ∑ right ∈ insert position positions with left < right,
        pairScoreAt weights lessons left right) =
      (∑ left ∈ positions, ∑ right ∈ positions with left < right,
        pairScoreAt weights lessons left right) +
      ∑ left ∈ positions with left < position, pairScoreAt weights lessons position left := by
    rw [sum_filter (fun left => left < position), ← sum_add_distrib]
    apply sum_congr rfl
    intro left member
    simp only [sum_filter]
    rw [sum_insert absent, add_comm, pair_score_at_swap weights lessons left position]
  have inner : (∑ right ∈ insert position positions with position < right,
        pairScoreAt weights lessons position right) =
      ∑ right ∈ positions with ¬right < position, pairScoreAt weights lessons position right := by
    rw [filter_insert, if_neg (lt_irrefl position)]
    apply sum_congr _ fun _ _ => rfl
    apply filter_congr
    intro right member
    have different : right ≠ position := fun same => absent (same ▸ member)
    omega
  have split := sum_filter_add_sum_filter_not positions (fun right => right < position)
    (fun right => pairScoreAt weights lessons position right)
  unfold scoreOn
  rw [sum_insert absent, sum_insert absent, outer, inner, ← split]
  abel

end SchoolTimetable
