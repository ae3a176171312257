import SchoolTimetable.Proofs.Search.Moves
import SchoolTimetable.Proofs.Sequencing

/-!
Which moves are picked. Whatever a source draws, a picked move gives a lesson a slot of the timetable,
one of its candidate rooms or one of its candidate teachers, or exchanges two lessons of the
timetable, and it was made for the timetable as it is.
-/

namespace SchoolTimetable

variable {Source : Type} [RandomSource Source]

theorem choose_mem {Member : Type} {members : List Member} {source after : Source} {chosen : Member}
    (drawn : (RandomSource.choose members).run source = .ok chosen after) : chosen ∈ members := by
  unfold RandomSource.choose at drawn
  split at drawn
  · obtain ⟨position, between, -, picked⟩ := run_bind_ok.1 drawn
    obtain ⟨rfl, -⟩ := EStateM.Result.ok.inj picked
    exact List.getElem_mem _
  · exact absurd drawn run_throw_ne_ok

namespace Move

inductive Offered (timetable : Timetable) : Move → Prop
  | slot (position : Nat) (slot : TimeSlot) (listed : slot ∈ timetable.slots) :
      Offered timetable (ofSetting timetable position (.slot (some slot)))
  | room (position : Nat) (lesson : Lesson) (found : timetable.lessons[position]? = some lesson)
      (room : Room) (candidate : room ∈ lesson.candidateRooms) :
      Offered timetable (ofSetting timetable position (.room (some room)))
  | teacher (position : Nat) (lesson : Lesson) (found : timetable.lessons[position]? = some lesson)
      (teacher : Teacher) (candidate : teacher ∈ lesson.candidateTeachers) :
      Offered timetable (ofSetting timetable position (.teacher (some teacher)))
  | swap (first second : Nat) : Offered timetable (.swap first second)

theorem Offered.recalls {timetable : Timetable} {move : Move} (offered : move.Offered timetable) :
    move.Recalls timetable := by
  cases offered with
  | slot => exact recalls_of_setting _ _ _
  | room => exact recalls_of_setting _ _ _
  | teacher => exact recalls_of_setting _ _ _
  | swap => trivial

theorem pick_offered {timetable : Timetable} {position : Nat} {lesson : Lesson} {kind : MoveKind}
    {source after : Source} {move : Move} (found : timetable.lessons[position]? = some lesson)
    (drawn : (pick timetable position lesson kind).run source = .ok move after) :
    move.Offered timetable := by
  unfold pick at drawn
  split at drawn
  · obtain ⟨room, between, chosen, picked⟩ := run_bind_ok.1 drawn
    obtain ⟨rfl, -⟩ := EStateM.Result.ok.inj picked
    exact .room position lesson found room (choose_mem chosen)
  · split at drawn
    · obtain ⟨teacher, between, chosen, picked⟩ := run_bind_ok.1 drawn
      obtain ⟨rfl, -⟩ := EStateM.Result.ok.inj picked
      exact .teacher position lesson found teacher (choose_mem chosen)
    · split at drawn
      · obtain ⟨other, between, -, picked⟩ := run_bind_ok.1 drawn
        obtain ⟨rfl, -⟩ := EStateM.Result.ok.inj picked
        exact .swap position other
      · obtain ⟨slot, between, chosen, picked⟩ := run_bind_ok.1 drawn
        obtain ⟨rfl, -⟩ := EStateM.Result.ok.inj picked
        exact .slot position slot (choose_mem chosen)

theorem select_some {timetable : Timetable} {source after : Source} {move : Move}
    (drawn : (select timetable).run source = .ok (some move) after) :
    move.Offered timetable ∧ move.isDoable timetable := by
  unfold select at drawn
  split at drawn
  · obtain ⟨same, -⟩ := EStateM.Result.ok.inj drawn
    cases same
  · obtain ⟨⟨lesson, position⟩, afterLesson, chosen, rest⟩ := run_bind_ok.1 drawn
    obtain ⟨kind, afterKind, -, rest⟩ := run_bind_ok.1 rest
    obtain ⟨picked, afterPick, pickDrawn, rest⟩ := run_bind_ok.1 rest
    have found := List.mem_zipIdx_iff_getElem?.1 (choose_mem chosen)
    have offered := pick_offered found pickDrawn
    by_cases doable : picked.isDoable timetable
    · rw [if_pos doable] at rest
      obtain ⟨same, -⟩ := EStateM.Result.ok.inj rest
      obtain rfl := Option.some.inj same
      exact ⟨offered, doable⟩
    · rw [if_neg doable] at rest
      obtain ⟨same, -⟩ := EStateM.Result.ok.inj rest
      cases same

end Move

end SchoolTimetable
