import SchoolTimetable.Proofs.Director.Index
import SchoolTimetable.Proofs.Evaluation.PositionSums

/-!
The score that a director keeps. While some lessons are in the index, the kept score is that of these
lessons, each by itself and all of them in pairs; what a lesson adds or takes away is found among the
lessons that share a key with it, since all others score nothing with it.
-/

namespace SchoolTimetable.Director

open Finset

/-- The lessons at some positions are in the index, and their score is the one that is kept. -/
structure Accounts (director : Director) (positions : Finset Nat) : Prop where
  indexes : director.Indexes positions
  scored : director.score = scoreOn director.weights director.timetable.lessons positions

section Contribution

variable {director : Director} {positions : Finset Nat} {position : Nat} {lesson : Lesson}

theorem neighbour_sum (indexes : director.Indexes positions) (absent : position ∉ positions)
    (found : director.lesson? position = some lesson) :
    Score.sum ((director.neighbours position lesson).filterMap fun other =>
        (director.lesson? other).map (pairScore director.weights lesson)) =
      ∑ other ∈ positions, pairScoreAt director.weights director.timetable.lessons position other := by
  have asSum : ∀ others : List Nat,
      (others.filterMap fun other =>
          (director.lesson? other).map (pairScore director.weights lesson)).sum =
        (others.map fun other =>
          pairScoreAt director.weights director.timetable.lessons position other).sum := by
    intro others
    induction others with
    | nil => rfl
    | cons other rest ih =>
        rw [List.map_cons, List.sum_cons, ← ih]
        unfold lesson? at found ⊢
        cases otherFound : director.timetable.lessons[other]? with
        | none => simp [pairScoreAt, found, otherFound]
        | some second => simp [pairScoreAt, found, otherFound]
  rw [Score.sum_eq, asSum, ← List.sum_toFinset _ (nodup_neighbours director position lesson)]
  -- Neighbours are counted positions, and a counted position that is none shares no key, so its pair
  -- scores nothing.
  apply sum_subset
  · intro other member
    obtain ⟨-, key, -, inBucket⟩ :=
      (mem_neighbours director position lesson other).1 (List.mem_toFinset.1 member)
    exact ((indexes.indexed key other).1 inBucket).1
  · intro other member apart
    unfold pairScoreAt
    unfold lesson? at found
    rw [found]
    cases otherFound : director.timetable.lessons[other]? with
    | none => rfl
    | some second =>
        apply pair_score_of_no_shared_key
        rintro ⟨key, firstHeld, secondHeld⟩
        apply apart
        have different : other ≠ position := fun same => absent (same ▸ member)
        have inBucket := (indexes.indexed key other).2 ⟨member, second, otherFound, secondHeld⟩
        exact List.mem_toFinset.2 ((mem_neighbours director position lesson other).2
          ⟨different, key, firstHeld, inBucket⟩)

theorem contribution_eq (indexes : director.Indexes positions) (absent : position ∉ positions)
    (found : director.lesson? position = some lesson) :
    director.contribution position lesson =
      lessonScoreAt director.weights director.timetable.lessons position +
        ∑ other ∈ positions,
          pairScoreAt director.weights director.timetable.lessons position other := by
  rw [contribution, neighbour_sum indexes absent found]
  unfold lesson? at found
  rw [lessonScoreAt, found]
  rfl

theorem Accounts.insert (accounts : director.Accounts positions) (absent : position ∉ positions)
    (found : director.lesson? position = some lesson) :
    (director.insert position lesson).Accounts (Insert.insert position positions) where
  indexes := accounts.indexes.insert found
  scored := by
    change director.score + director.contribution position lesson = scoreOn director.weights _ _
    rw [contribution_eq accounts.indexes absent found, accounts.scored]
    exact (score_on_insert director.weights director.timetable.lessons absent).symm

theorem Accounts.retract (accounts : director.Accounts positions) (present : position ∈ positions)
    (found : director.lesson? position = some lesson) :
    (director.retract position lesson).Accounts (positions.erase position) where
  indexes := accounts.indexes.retract found
  scored := by
    have rest := accounts.indexes.retract found
    have share := contribution_eq rest (notMem_erase position positions) found
    have whole := score_on_insert director.weights director.timetable.lessons
      (notMem_erase position positions)
    rw [insert_erase present, ← accounts.scored] at whole
    change director.score - (director.retract position lesson).contribution position lesson =
      scoreOn director.weights director.timetable.lessons _
    rw [share, whole]
    exact add_sub_cancel_right _ _

theorem score_on_set (weights : Weights) (lessons : List Lesson) (absent : position ∉ positions) :
    scoreOn weights (lessons.set position lesson) positions = scoreOn weights lessons positions := by
  have other : ∀ place ∈ positions, (lessons.set position lesson)[place]? = lessons[place]? := by
    intro place member
    have different : position ≠ place := fun same => absent (same ▸ member)
    exact List.getElem?_set_ne different
  unfold scoreOn
  congr 1
  · apply sum_congr rfl
    intro left member
    rw [lessonScoreAt, lessonScoreAt, other left member]
  · apply sum_congr rfl
    intro left leftMember
    apply sum_congr rfl
    intro right rightMember
    rw [pairScoreAt, pairScoreAt, other left leftMember, other right (mem_filter.1 rightMember).1]

theorem Accounts.writeLesson (accounts : director.Accounts positions) (absent : position ∉ positions) :
    (director.writeLesson position lesson).Accounts positions where
  indexes := accounts.indexes.writeLesson absent
  scored := by
    change director.score = scoreOn director.weights (director.timetable.lessons.set position lesson) _
    rw [score_on_set director.weights director.timetable.lessons absent]
    exact accounts.scored

end Contribution

/-- The index holds every lesson under exactly its keys, nothing is left empty, and the kept score is
that of an evaluation from scratch. -/
structure Consistent (director : Director) : Prop where
  tidy : Tidy director.index
  indexed : ∀ key position, position ∈ director.bucket key ↔
    ∃ lesson, director.lesson? position = some lesson ∧ key ∈ lesson.indexKeys
  scored : director.score = director.recalculate

theorem consistent_iff_accounts (director : Director) :
    director.Consistent ↔ director.Accounts (range director.timetable.lessons.length) := by
  have bounded : ∀ key position,
      (position ∈ range director.timetable.lessons.length ∧
        ∃ lesson, director.lesson? position = some lesson ∧ key ∈ lesson.indexKeys) ↔
      ∃ lesson, director.lesson? position = some lesson ∧ key ∈ lesson.indexKeys := by
    intro key position
    constructor
    · exact fun held => held.2
    · rintro ⟨lesson, found, held⟩
      exact ⟨mem_range.2 (List.getElem?_eq_some_iff.1 found).1, lesson, found, held⟩
  have total : director.recalculate =
      scoreOn director.weights director.timetable.lessons
        (range director.timetable.lessons.length) :=
    full_score_eq_score_on director.weights director.timetable.lessons
  constructor
  · intro consistent
    exact ⟨⟨consistent.tidy, fun key position =>
      (consistent.indexed key position).trans (bounded key position).symm⟩,
      consistent.scored.trans total⟩
  · intro accounts
    exact ⟨accounts.indexes.tidy, fun key position =>
      (accounts.indexes.indexed key position).trans (bounded key position),
      accounts.scored.trans total.symm⟩

/-- Lessons are put in one after the other; those before the next one are accounted for. -/
private theorem accounts_fold (director : Director) (entries : List Lesson) (count : Nat)
    (suffix : director.timetable.lessons.drop count = entries)
    (accounts : director.Accounts (range count)) :
    ((entries.zipIdx count).foldl
        (fun director entry => director.insert entry.2 entry.1) director).Accounts
      (range (count + entries.length)) := by
  induction entries generalizing director count with
  | nil => exact accounts
  | cons lesson rest ih =>
      have found : director.lesson? count = some lesson := by
        have first := congrArg List.head? suffix
        rwa [List.head?_drop] at first
      have next := accounts.insert notMem_range_self found
      rw [← range_add_one] at next
      have nextSuffix : director.timetable.lessons.drop (count + 1) = rest := by
        have tail := congrArg List.tail suffix
        rwa [List.tail_drop] at tail
      have done := ih (director.insert count lesson) (count + 1) nextSuffix next
      rw [List.length_cons, show count + (rest.length + 1) = count + 1 + rest.length by omega]
      exact done

private theorem fold_insert_timetable (director : Director) (entries : List (Lesson × Nat)) :
    (entries.foldl (fun director entry => director.insert entry.2 entry.1) director).timetable =
      director.timetable := by
  induction entries generalizing director with
  | nil => rfl
  | cons entry rest ih => exact ih _

private theorem fold_insert_weights (director : Director) (entries : List (Lesson × Nat)) :
    (entries.foldl (fun director entry => director.insert entry.2 entry.1) director).weights =
      director.weights := by
  induction entries generalizing director with
  | nil => rfl
  | cons entry rest ih => exact ih _

@[simp] theorem of_timetable_timetable (timetable : Timetable) (weights : Weights) :
    (ofTimetable timetable weights).timetable = timetable :=
  fold_insert_timetable _ _

@[simp] theorem of_timetable_weights (timetable : Timetable) (weights : Weights) :
    (ofTimetable timetable weights).weights = weights :=
  fold_insert_weights _ _

theorem consistent_of_timetable (timetable : Timetable) (weights : Weights) :
    (ofTimetable timetable weights).Consistent := by
  have initial : (Director.mk timetable weights ∅ 0).Accounts (range 0) :=
    ⟨⟨tidy_empty, by simp [bucket]⟩, by simp [scoreOn]⟩
  have filled := accounts_fold _ timetable.lessons 0 rfl initial
  rw [Nat.zero_add] at filled
  rw [consistent_iff_accounts, of_timetable_timetable]
  exact filled

def placedAt (lessons : List Lesson) (position : Nat) (placement : Placement) : List Lesson :=
  lessons.modify position fun lesson => lesson.placed placement

theorem assign_lessons (director : Director) (position : Nat) (placement : Placement) :
    (director.assign position placement).timetable =
      { director.timetable with
        lessons := placedAt director.timetable.lessons position placement } := by
  have unchanged : placedAt director.timetable.lessons position placement =
      director.timetable.lessons →
      director.timetable = { director.timetable with
        lessons := placedAt director.timetable.lessons position placement } := fun same => by rw [same]
  unfold assign
  cases found : director.lesson? position with
  | none =>
      unfold lesson? at found
      have beyond := List.getElem?_eq_none_iff.1 found
      exact unchanged (List.modify_eq_self beyond)
  | some lesson =>
      unfold lesson? at found
      by_cases same : placement = lesson.placement
      · simp only [if_pos same]
        apply unchanged
        apply List.ext_getElem?
        intro place
        rw [placedAt, List.getElem?_modify]
        by_cases here : position = place
        · subst here
          simp [found, Lesson.placed, same]
        · simp [here]
      · simp only [if_neg same]
        have written : director.timetable.lessons.set position (lesson.placed placement) =
            placedAt director.timetable.lessons position placement := by
          rw [placedAt, List.modify_eq_set_getElem?, found]
          rfl
        rw [← written]
        rfl

@[simp] theorem assign_weights (director : Director) (position : Nat) (placement : Placement) :
    (director.assign position placement).weights = director.weights := by
  unfold assign
  cases director.lesson? position with
  | none => rfl
  | some lesson =>
      by_cases same : placement = lesson.placement
      · simp [same]
      · simp only [if_neg same]
        rfl

/-- A change takes the lesson out with its old share and puts it back with the new one. -/
theorem Consistent.assign {director : Director} (consistent : director.Consistent) (position : Nat)
    (placement : Placement) : (director.assign position placement).Consistent := by
  unfold Director.assign
  cases found : director.lesson? position with
  | none => exact consistent
  | some lesson =>
      by_cases same : placement = lesson.placement
      · simpa only [if_pos same] using consistent
      · simp only [if_neg same]
        have bound := (List.getElem?_eq_some_iff.1 found).1
        -- While the lesson is written its position is the only one that is not accounted for.
        have taken := ((consistent_iff_accounts director).1 consistent).retract
          (mem_range.2 bound) found
        have written : ((director.retract position lesson).writeLesson position
            (lesson.placed placement)).Accounts _ :=
          taken.writeLesson (notMem_erase position (range director.timetable.lessons.length))
        have moved : ((director.retract position lesson).writeLesson position
            (lesson.placed placement)).lesson? position = some (lesson.placed placement) := by
          change (director.timetable.lessons.set position (lesson.placed placement))[position]? = _
          rw [List.getElem?_set_self bound]
        have back := written.insert (notMem_erase _ _) moved
        rw [insert_erase (mem_range.2 bound)] at back
        rw [consistent_iff_accounts]
        have size : (director.timetable.lessons.set position (lesson.placed placement)).length =
            director.timetable.lessons.length := List.length_set
        change Accounts _ (range (director.timetable.lessons.set position _).length)
        rw [size]
        exact back

end SchoolTimetable.Director
