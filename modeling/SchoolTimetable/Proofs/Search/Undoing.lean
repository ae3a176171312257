import SchoolTimetable.Proofs.Search.Operations

/-!
Moves taken back. Whatever lessons share or lack, a move that is made and then taken back leaves the placements as
they were, and with them the score and what is in the index.
-/

namespace SchoolTimetable

namespace Director

variable {first second : Director}

/-- The same positions are under the same keys. -/
def SameIndex (first second : Director) : Prop :=
  ∀ key, (key ∈ first.index ↔ key ∈ second.index) ∧ (first.bucket key).Perm (second.bucket key)

theorem Consistent.mem_index_iff (consistent : first.Consistent) (key : IndexKey) :
    key ∈ first.index ↔ first.bucket key ≠ [] := by
  refine ⟨consistent.tidy.occupied key, fun held => ?_⟩
  by_contra absent
  exact held (Std.HashMap.getD_eq_fallback absent)

/-- What is in the index of a consistent director depends on its timetable alone. -/
theorem Consistent.same_index (consistent : first.Consistent) (other : second.Consistent)
    (same : first.timetable = second.timetable) : first.SameIndex second := by
  intro key
  have members : ∀ position, position ∈ first.bucket key ↔ position ∈ second.bucket key := by
    intro position
    rw [consistent.indexed, other.indexed]
    unfold lesson?
    rw [same]
  have perm : (first.bucket key).Perm (second.bucket key) :=
    (List.perm_ext_iff_of_nodup (consistent.tidy.once key) (other.tidy.once key)).2 members
  refine ⟨?_, perm⟩
  rw [consistent.mem_index_iff, other.mem_index_iff, Ne, Ne, ← List.length_eq_zero_iff, perm.length_eq,
    List.length_eq_zero_iff]

end Director

namespace Move

open Director

variable {director moved : Director} {move : Move}

/-- The moves that can be made up for a timetable: a planning variable of a lesson is set to any value, or any two
lessons are exchanged. -/
inductive MadeFor (timetable : Timetable) : Move → Prop
  | change {position : Nat} {lesson : Lesson} {setting : Setting}
      (found : timetable.lessons[position]? = some lesson) (known : Setting.unknownName? [setting] = none) :
      MadeFor timetable (.ofSetting timetable position setting)
  | swap {first second : Nat} {left right : Lesson} (leftFound : timetable.lessons[first]? = some left)
      (rightFound : timetable.lessons[second]? = some right) : MadeFor timetable (.swap first second)

theorem MadeFor.recalls {timetable : Timetable} (made : move.MadeFor timetable) : move.Recalls timetable := by
  cases made with
  | change => exact recalls_of_setting ..
  | swap => trivial

theorem of_setting_found {timetable : Timetable} {position : Nat} {lesson : Lesson}
    (found : timetable.lessons[position]? = some lesson) (setting : Setting) :
    ofSetting timetable position setting = .change position (setting.current lesson.placement) setting := by
  unfold ofSetting
  rw [found]

/-- Where the timetable is not final a move that was made up for it is not refused. -/
theorem MadeFor.performed (made : move.MadeFor director.timetable)
    (working : director.timetable.isFinal = false) : ∃ moved, move.perform director = .ok moved := by
  cases made with
  | @change position lesson setting found known =>
      rw [of_setting_found found]
      exact change_of_working position working known
  | swap => exact perform_swap_of_working _ _ working

theorem MadeFor.changes (made : move.MadeFor director.timetable)
    (doable : move.isDoable director.timetable = true) (performed : move.perform director = .ok moved) :
    moved.timetable ≠ director.timetable := by
  intro unchanged
  cases made with
  | @change position lesson setting found known =>
      rw [of_setting_found found] at doable performed
      have written := change_timetable performed
      rw [written_by_of_lesson _ found, unchanged] at written
      have own : director.timetable.lessons = director.timetable.lessons.set position
          (lesson.placed (Setting.apply lesson.placement setting)) := congrArg Timetable.lessons written
      have bound := (List.getElem?_eq_some_iff.1 found).1
      rw [own, List.getElem?_set_self bound] at found
      have same := congrArg Lesson.placement (Option.some.inj found)
      have held : setting.current lesson.placement = setting := by
        rw [← same]
        exact Setting.current_apply_self setting lesson.placement
      exact absurd held (bne_iff_ne.1 doable)
  | @swap first second left right leftFound rightFound =>
      have written := perform_swap_timetable leftFound rightFound performed
      rw [unchanged] at written
      have own : director.timetable.lessons = (director.timetable.lessons.set first
          (left.exchanged right)).set second (right.exchanged left) := congrArg Timetable.lessons written
      simp only [isDoable, leftFound, rightFound, Bool.and_eq_true, bne_iff_ne] at doable
      obtain ⟨different, exchange⟩ := doable
      have bound := (List.getElem?_eq_some_iff.1 leftFound).1
      have there := leftFound
      rw [own, List.getElem?_set_ne (Ne.symm different), List.getElem?_set_self bound] at there
      have same := congrArg Lesson.placement (Option.some.inj there)
      have sameSlot : right.slot = left.slot := (congrArg Placement.slot same :)
      have sameRoom : right.room = left.room := (congrArg Placement.room same :)
      simp [swapDoable, sameSlot, sameRoom] at exchange

end Move

/-- Any move that is made up for a timetable which is not final, in any state, can be made, and changes something if
it is doable. The move that takes it back, known before it is made, brings back all placements, the score and the
content of the index. -/
theorem made_move_is_undone_exactly {director : Director} {move : Move} (consistent : director.Consistent)
    (working : director.timetable.isFinal = false) (made : move.MadeFor director.timetable) :
    ∃ moved back, (Operation.makeMove move).run director = .ok moved.score moved ∧
      (move.isDoable director.timetable = true → moved.timetable ≠ director.timetable) ∧
      (Operation.makeMove move.inverse).run moved = .ok back.score back ∧
      back.timetable = director.timetable ∧ back.score = director.score ∧ back.SameIndex director := by
  obtain ⟨moved, performed⟩ := made.performed working
  obtain ⟨back, undone, same⟩ := Move.inverse_undoes made.recalls performed
  have tracks : director.Tracks director.timetable director.weights := ⟨consistent, rfl, .refl _⟩
  have backTracks := (tracks.perform performed).perform undone
  have sameScore : back.score = director.score := by
    rw [backTracks.consistent.scored, consistent.scored, Director.recalculate, Director.recalculate, same,
      backTracks.weights]
  refine ⟨moved, back, ?_, fun doable => made.changes doable performed, ?_, same, sameScore,
    backTracks.consistent.same_index consistent same⟩
  · rw [Operation.make_move_run, performed]
    rfl
  · rw [Operation.make_move_run, undone]
    rfl

/-- Two lessons of one class and teacher in one room, of which the second has no slot yet. -/
def halfPlacedHours : Timetable :=
  let meier : Teacher := ⟨"meier", "Meier", none, 20, [], [], [("maths", [5])]⟩
  let maths : Subject := ⟨"maths", "Maths", none⟩
  let fifth : SchoolClass := ⟨"5a", "5a", 5, some 28, none⟩
  let hall : Room := ⟨"hall", "Hall", some 30, []⟩
  let early : TimeSlot := ⟨"monday-1", 0, 1, none, none⟩
  { term := "autumn"
    slots := [early]
    rooms := [hall]
    teachers := [meier]
    classes := [fifth]
    subjects := [maths]
    lessons := [⟨"early", fifth, maths, .every, [meier], [hall], ⟨some early, some hall, some meier⟩⟩,
      ⟨"open", fifth, maths, .every, [meier], [hall], ⟨none, some hall, some meier⟩⟩]
    score := none
    isFinal := false }

theorem half_placed_hours_are_exchanged_and_back :
    let director := Director.ofTimetable halfPlacedHours .standard
    director.Consistent ∧ (Move.swap 0 1).isDoable halfPlacedHours = true ∧
      ∃ moved back, (Operation.makeMove (.swap 0 1)).run director = .ok moved.score moved ∧
        moved.timetable ≠ halfPlacedHours ∧
        (Operation.makeMove (.swap 0 1)).run moved = .ok back.score back ∧
        back.timetable = halfPlacedHours ∧ back.score = director.score ∧ back.SameIndex director := by
  intro director
  have consistent := Director.consistent_of_timetable halfPlacedHours .standard
  have same : director.timetable = halfPlacedHours := Director.of_timetable_timetable ..
  have doable : (Move.swap 0 1).isDoable halfPlacedHours = true := by decide
  have made : (Move.swap 0 1).MadeFor director.timetable := by
    rw [same]
    exact .swap rfl rfl
  obtain ⟨moved, back, performed, changed, undone, brought, sameScore, sameIndex⟩ :=
    made_move_is_undone_exactly consistent (same ▸ rfl) made
  rw [same] at changed brought
  exact ⟨consistent, doable, moved, back, performed, changed doable, undone, brought, sameScore, sameIndex⟩

end SchoolTimetable
