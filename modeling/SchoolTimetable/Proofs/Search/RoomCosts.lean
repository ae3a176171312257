import SchoolTimetable.Proofs.Director.Accounting
import SchoolTimetable.Proofs.Evaluation.Counting

/-!
What a room costs. The score of a timetable with one lesson in some placement is the score of all other
lessons and the share of this one. Of two placements that differ in the room alone, the one without a room
has the same soft points and no fewer hard points, so it bounds the scores that its rooms can come to.
-/

namespace SchoolTimetable

/-- The first score has the soft points of the second and at most its hard points. -/
structure Score.LosesHardTo (first second : Score) : Prop where
  hard : first.hard ≤ second.hard
  soft : first.soft = second.soft

namespace Score.LosesHardTo

theorem refl (score : Score) : score.LosesHardTo score := ⟨Int.le_refl _, rfl⟩

variable {first second third fourth : Score}

theorem add (left : first.LosesHardTo second) (right : third.LosesHardTo fourth) :
    (first + third).LosesHardTo (second + fourth) where
  hard := by
    have leftHard := left.hard
    have rightHard := right.hard
    rw [add_hard, add_hard]
    omega
  soft := by
    rw [add_soft, add_soft, left.soft, right.soft]

theorem sum {Member : Type} (members : Finset Member) {value other : Member → Score}
    (each : ∀ member, (value member).LosesHardTo (other member)) :
    (∑ member ∈ members, value member).LosesHardTo (∑ member ∈ members, other member) :=
  Finset.sum_hom_rel (refl 0) fun member _ _ rest => (each member).add rest

theorem le (loses : first.LosesHardTo second) : first ≤ second := by
  have hard := loses.hard
  have soft := loses.soft
  rw [le_iff]
  omega

end Score.LosesHardTo

theorem one_hard_loses (condition : Bool) (constraint : Constraint) :
    (totalScore (impactIf condition constraint .oneHard)).LosesHardTo 0 := by
  cases condition with
  | false => exact .refl 0
  | true => exact ⟨show (-1 : Int) ≤ 0 by decide, rfl⟩

section Roomless

variable (weights : Weights) (lesson other : Lesson) (slot : Option TimeSlot) (room : Option Room)
  (teacher : Option Teacher)

/-- By itself a lesson only loses hard points to itself without a room: its room may be too small. -/
theorem lesson_score_loses :
    (lessonScore weights (lesson.placed ⟨slot, room, teacher⟩)).LosesHardTo
      (lessonScore weights (lesson.placed ⟨slot, none, teacher⟩)) := by
  cases slot with
  | none => exact .refl _
  | some slot =>
      unfold lessonScore lessonMatches
      dsimp only [Lesson.slot, Lesson.placed]
      simp only [total_score_append]
      exact ((Score.LosesHardTo.refl _).add (one_hard_loses _ _)).add (.refl _)

theorem meeting_score_loses (own elsewhere : TimeSlot) :
    (totalScore (meetingMatches weights (lesson.placed ⟨slot, room, teacher⟩) other own
        elsewhere)).LosesHardTo
      (totalScore (meetingMatches weights (lesson.placed ⟨slot, none, teacher⟩) other own
        elsewhere)) := by
  unfold meetingMatches
  simp only [total_score_append]
  -- Of the five constraints on pairs only the second looks at rooms, and without one it does not match.
  have roomless : sameRoom (lesson.placed ⟨slot, none, teacher⟩) other = false := rfl
  rw [roomless, Bool.and_false]
  exact ((((Score.LosesHardTo.refl _).add (one_hard_loses _ _)).add (.refl _)).add (.refl _)).add (.refl _)

/-- With another lesson it loses hard points only where both are in one room. -/
theorem pair_score_loses :
    (pairScore weights (lesson.placed ⟨slot, room, teacher⟩) other).LosesHardTo
      (pairScore weights (lesson.placed ⟨slot, none, teacher⟩) other) := by
  unfold pairScore pairMatches
  cases slot with
  | none => exact .refl _
  | some own =>
      cases other.slot with
      | none => exact .refl _
      | some elsewhere =>
          -- Whether the two meet does not depend on rooms.
          change Score.LosesHardTo
            (totalScore (if own.day == elsewhere.day && lesson.overlaps other then _ else []))
            (totalScore (if own.day == elsewhere.day && lesson.overlaps other then _ else []))
          split
          · exact meeting_score_loses weights lesson other (some own) room teacher own elsewhere
          · exact .refl _

end Roomless

namespace Director

open Finset

variable (weights : Weights) {lessons : List Lesson} {position : Nat} {lesson : Lesson}

/-- What the lesson at a position adds to the score in a placement, by itself and with all others. -/
def shareOf (weights : Weights) (lessons : List Lesson) (position : Nat) (placed : Lesson) : Score :=
  lessonScore weights placed +
    ∑ other ∈ (range lessons.length).erase position, lessons[other]?.elim 0 (pairScore weights placed)

theorem length_placed_at (lessons : List Lesson) (position : Nat) (placement : Placement) :
    (placedAt lessons position placement).length = lessons.length :=
  List.length_modify ..

theorem full_score_placed_at (found : lessons[position]? = some lesson) (placement : Placement) :
    fullScore weights (placedAt lessons position placement) =
      scoreOn weights lessons ((range lessons.length).erase position) +
        shareOf weights lessons position (lesson.placed placement) := by
  have bound := (List.getElem?_eq_some_iff.1 found).1
  have written : placedAt lessons position placement = lessons.set position (lesson.placed placement) := by
    rw [placedAt, List.modify_eq_set_getElem?, found]
    rfl
  have here : (lessons.set position (lesson.placed placement))[position]? =
      some (lesson.placed placement) := List.getElem?_set_self bound
  have absent : position ∉ (range lessons.length).erase position := notMem_erase _ _
  rw [full_score_eq_score_on, length_placed_at, written, ← insert_erase (mem_range.2 bound),
    score_on_insert weights _ absent, erase_insert absent, score_on_set weights lessons absent,
    lessonScoreAt, here]
  congr 2
  apply sum_congr rfl
  intro other listed
  have elsewhere : position ≠ other := (ne_of_mem_erase listed).symm
  rw [pairScoreAt, here, List.getElem?_set_ne elsewhere]
  cases lessons[other]? <;> rfl

/-- A placement without a room bounds what the placement can come to with one. -/
theorem full_score_le_roomless (found : lessons[position]? = some lesson) (slot : Option TimeSlot)
    (room : Option Room) (teacher : Option Teacher) :
    fullScore weights (placedAt lessons position ⟨slot, room, teacher⟩) ≤
      fullScore weights (placedAt lessons position ⟨slot, none, teacher⟩) := by
  rw [full_score_placed_at weights found, full_score_placed_at weights found]
  have withOthers : ∀ other : Nat,
      (lessons[other]?.elim 0 (pairScore weights (lesson.placed ⟨slot, room, teacher⟩))).LosesHardTo
        (lessons[other]?.elim 0 (pairScore weights (lesson.placed ⟨slot, none, teacher⟩))) := by
    intro other
    cases lessons[other]? with
    | none => exact .refl 0
    | some second => exact pair_score_loses weights lesson second slot room teacher
  have share := (lesson_score_loses weights lesson slot room teacher).add
    (Score.LosesHardTo.sum ((range lessons.length).erase position) withOthers)
  exact ((Score.LosesHardTo.refl _).add share).le

end Director

end SchoolTimetable
