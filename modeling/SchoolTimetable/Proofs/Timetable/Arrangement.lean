import SchoolTimetable.Proofs.Director.Changes

/-!
Arrangements of a timetable: the same lessons and facts with other placements. Whatever a director or
a search does to a timetable makes another arrangement of it, and an arrangement is known by its
snapshot.
-/

namespace SchoolTimetable

def Lesson.unplaced (lesson : Lesson) : Lesson := lesson.placed ⟨none, none, none⟩

namespace Lesson

@[simp] theorem placed_placed (lesson : Lesson) (first second : Placement) :
    (lesson.placed first).placed second = lesson.placed second := rfl

@[simp] theorem unplaced_placed (lesson : Lesson) (placement : Placement) :
    (lesson.placed placement).unplaced = lesson.unplaced := rfl

@[simp] theorem placed_own_placement (lesson : Lesson) : lesson.placed lesson.placement = lesson := rfl

@[simp] theorem placed_placement (lesson : Lesson) (placement : Placement) :
    (lesson.placed placement).placement = placement := rfl

/-- Two lessons that differ in nothing but their placements are one lesson placed twice. -/
theorem placed_of_unplaced_eq {first second : Lesson} (same : first.unplaced = second.unplaced) :
    second.placed first.placement = first := by
  obtain ⟨id, schoolClass, subject, pattern, teachers, rooms, placement⟩ := first
  simp only [unplaced, placed, mk.injEq, and_true] at same
  obtain ⟨rfl, rfl, rfl, rfl, rfl, rfl⟩ := same
  rfl

end Lesson

namespace Timetable

/-- A timetable with the lessons and facts of another, whatever their placements are. -/
structure Arranges (timetable base : Timetable) : Prop where
  facts : timetable = { base with lessons := timetable.lessons }
  lessons : timetable.lessons.map Lesson.unplaced = base.lessons.map Lesson.unplaced

namespace Arranges

theorem refl (timetable : Timetable) : timetable.Arranges timetable := ⟨rfl, rfl⟩

theorem trans {first second third : Timetable} (left : first.Arranges second)
    (right : second.Arranges third) : first.Arranges third where
  facts := by
    rw [left.facts, right.facts]
  lessons := left.lessons.trans right.lessons

variable {timetable base : Timetable}

theorem slots (arranges : timetable.Arranges base) : timetable.slots = base.slots := by
  rw [arranges.facts]

theorem isFinal (arranges : timetable.Arranges base) : timetable.isFinal = base.isFinal := by
  rw [arranges.facts]

theorem length (arranges : timetable.Arranges base) :
    timetable.lessons.length = base.lessons.length := by
  simpa using congrArg List.length arranges.lessons

/-- The lessons of an arrangement are those of the timetable with the placements of its snapshot. -/
theorem lessons_with_snapshot (arranges : timetable.Arranges base) :
    base.lessonsWith timetable.snapshot = timetable.lessons := by
  have same := arranges.lessons
  unfold lessonsWith snapshot
  generalize timetable.lessons = arranged at same
  generalize base.lessons = lessons at same
  induction arranged generalizing lessons with
  | nil =>
      cases lessons with
      | nil => rfl
      | cons _ _ => simp at same
  | cons first rest ih =>
      cases lessons with
      | nil => simp at same
      | cons lesson others =>
          simp only [List.map_cons, List.cons.injEq] at same
          rw [List.map_cons, List.zipWith_cons_cons, ih others same.2,
            Lesson.placed_of_unplaced_eq same.1]

/-- Each lesson of an arrangement is a lesson of the timetable in another place. -/
theorem lesson_at (arranges : timetable.Arranges base) {position : Nat} {lesson : Lesson}
    (found : timetable.lessons[position]? = some lesson) :
    ∃ original, base.lessons[position]? = some original ∧
      lesson = original.placed lesson.placement := by
  have same : (timetable.lessons.map Lesson.unplaced)[position]? =
      (base.lessons.map Lesson.unplaced)[position]? := by rw [arranges.lessons]
  rw [List.getElem?_map, List.getElem?_map, found, Option.map_some] at same
  obtain ⟨original, originalFound, equal⟩ := Option.map_eq_some_iff.1 same.symm
  exact ⟨original, originalFound, (Lesson.placed_of_unplaced_eq equal.symm).symm⟩

theorem ids (arranges : timetable.Arranges base) :
    timetable.lessons.map (·.id) = base.lessons.map (·.id) := by
  have mapped := congrArg (List.map (·.id)) arranges.lessons
  rwa [List.map_map, List.map_map] at mapped

theorem lesson_kept (arranges : timetable.Arranges base) {lesson : Lesson} (listed : lesson ∈ base.lessons) :
    ∃ placement, lesson.placed placement ∈ timetable.lessons := by
  obtain ⟨position, found⟩ := List.mem_iff_getElem?.1 listed
  have bound : position < timetable.lessons.length := by
    rw [arranges.length]
    exact (List.getElem?_eq_some_iff.1 found).1
  obtain ⟨original, originalFound, moved⟩ := arranges.lesson_at (List.getElem?_eq_getElem bound)
  obtain rfl := Option.some.inj (found.symm.trans originalFound)
  exact ⟨_, moved ▸ List.getElem_mem bound⟩

theorem lessons_with (arranges : timetable.Arranges base) (snapshot : Snapshot) :
    timetable.lessonsWith snapshot = base.lessonsWith snapshot := by
  have hidden : ∀ lessons : List Lesson, lessons.zipWith Lesson.placed snapshot =
      (lessons.map Lesson.unplaced).zipWith Lesson.placed snapshot := by
    intro lessons
    rw [List.zipWith_map_left]
    rfl
  unfold lessonsWith
  rw [hidden timetable.lessons, hidden base.lessons, arranges.lessons]

end Arranges

theorem snapshot_length (timetable : Timetable) : timetable.snapshot.length = timetable.lessons.length :=
  List.length_map _

theorem unplaced_lessons_with (timetable : Timetable) {snapshot : Snapshot}
    (fits : snapshot.length = timetable.lessons.length) :
    (timetable.lessonsWith snapshot).map Lesson.unplaced = timetable.lessons.map Lesson.unplaced := by
  unfold lessonsWith
  generalize timetable.lessons = lessons at fits
  induction lessons generalizing snapshot with
  | nil => simp
  | cons lesson rest ih =>
      cases snapshot with
      | nil => simp at fits
      | cons placement others =>
          simp only [List.length_cons, Nat.add_right_cancel_iff] at fits
          simp [ih fits]

theorem mem_lessons_with {timetable : Timetable} {snapshot : Snapshot} {lesson : Lesson}
    (listed : lesson ∈ timetable.lessonsWith snapshot) :
    ∃ original ∈ timetable.lessons, ∃ placement, lesson = original.placed placement := by
  obtain ⟨position, found⟩ := List.mem_iff_getElem?.1 listed
  obtain ⟨original, placement, there, -, same⟩ := List.getElem?_zipWith_eq_some.1 found
  exact ⟨original, List.mem_of_getElem? there, placement, same.symm⟩

theorem snapshot_lessons_with (timetable : Timetable) {snapshot : Snapshot}
    (fits : snapshot.length = timetable.lessons.length) :
    (timetable.lessonsWith snapshot).map (·.placement) = snapshot := by
  unfold lessonsWith
  generalize timetable.lessons = lessons at fits
  induction lessons generalizing snapshot with
  | nil =>
      rw [List.length_nil] at fits
      rw [List.eq_nil_of_length_eq_zero fits]
      rfl
  | cons lesson rest ih =>
      cases snapshot with
      | nil => simp at fits
      | cons placement others =>
          simp only [List.length_cons, Nat.add_right_cancel_iff] at fits
          simp [ih fits]

theorem restore_ok {timetable restored : Timetable} {snapshot : Snapshot}
    (done : timetable.restore snapshot = .ok restored) :
    timetable.isFinal = false ∧ snapshot.length = timetable.lessons.length ∧
      restored = { timetable with lessons := timetable.lessonsWith snapshot } := by
  unfold restore checkSnapshot at done
  by_cases isFinal : timetable.isFinal
  · rw [if_pos isFinal] at done
    cases done
  · by_cases fits : snapshot.length = timetable.lessons.length
    · rw [if_neg isFinal, if_pos fits] at done
      exact ⟨by simpa using isFinal, fits, (Except.ok.inj done).symm⟩
    · rw [if_neg isFinal, if_neg fits] at done
      cases done

theorem restore_of_length {timetable : Timetable} {snapshot : Snapshot}
    (working : timetable.isFinal = false) (fits : snapshot.length = timetable.lessons.length) :
    timetable.restore snapshot = .ok { timetable with lessons := timetable.lessonsWith snapshot } := by
  simp [restore, checkSnapshot, working, fits]

theorem copy_with_of_length {timetable : Timetable} {snapshot : Snapshot} (score : Option Score)
    (fits : snapshot.length = timetable.lessons.length) :
    timetable.copyWith snapshot score = .ok { timetable with
      lessons := timetable.lessonsWith snapshot, score := score, isFinal := true } := by
  simp [copyWith, checkSnapshot, fits]

end Timetable

namespace Director

structure Tracks (director : Director) (base : Timetable) (weights : Weights) : Prop where
  consistent : director.Consistent
  weights : director.weights = weights
  arranges : director.timetable.Arranges base

theorem tracks_of_timetable (timetable : Timetable) (weights : Weights) :
    (ofTimetable timetable weights).Tracks timetable weights where
  consistent := consistent_of_timetable timetable weights
  weights := of_timetable_weights timetable weights
  arranges := by
    rw [of_timetable_timetable]
    exact .refl timetable

theorem arranges_assign (director : Director) (position : Nat) (placement : Placement) :
    (director.assign position placement).timetable.Arranges director.timetable where
  facts := by
    rw [assign_lessons]
  lessons := by
    rw [assign_lessons]
    change (placedAt director.timetable.lessons position placement).map Lesson.unplaced = _
    unfold placedAt
    apply List.ext_getElem?
    intro place
    rw [List.getElem?_map, List.getElem?_map, List.getElem?_modify]
    split <;> cases director.timetable.lessons[place]? <;> rfl

namespace Tracks

variable {director : Director} {base : Timetable} {weights : Weights}

theorem assign (tracks : director.Tracks base weights) (position : Nat) (placement : Placement) :
    (director.assign position placement).Tracks base weights where
  consistent := tracks.consistent.assign position placement
  weights := (assign_weights director position placement).trans tracks.weights
  arranges := (arranges_assign director position placement).trans tracks.arranges

theorem change {next : Director} {position : Nat} {settings : List Setting}
    (tracks : director.Tracks base weights) (changed : director.change position settings = .ok next) :
    next.Tracks base weights := by
  rcases change_ok changed with ⟨-, ⟨-, rfl⟩ | ⟨lesson, -, rfl⟩⟩
  · exact tracks
  · exact tracks.assign position _

theorem score_eq (tracks : director.Tracks base weights) :
    director.score = fullScore weights (base.lessonsWith director.timetable.snapshot) := by
  rw [tracks.consistent.scored, tracks.arranges.lessons_with_snapshot, recalculate, tracks.weights]
  rfl

end Tracks

end Director

end SchoolTimetable
