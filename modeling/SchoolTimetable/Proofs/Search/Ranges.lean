import SchoolTimetable.Proofs.Search.Rounds

/-!
Value ranges. A lesson is in range if it has a slot of the timetable, one of its candidate teachers and
one of its candidate rooms, or no room where it has no candidates. The search never leaves the ranges:
a picked change draws from them, and an exchange is made only where each lesson may be held in the room
of the other.
-/

namespace SchoolTimetable

namespace Lesson

structure Seated (slots : List TimeSlot) (lesson : Lesson) : Prop where
  slot : ∃ slot ∈ slots, lesson.slot = some slot
  teacher : ∃ teacher ∈ lesson.candidateTeachers, lesson.teacher = some teacher
  room : ∀ room, lesson.room = some room → room ∈ lesson.candidateRooms

structure InRange (slots : List TimeSlot) (lesson : Lesson) : Prop extends Seated slots lesson where
  roomless : lesson.room = none ↔ lesson.candidateRooms = []

theorem in_range_exchanged {slots : List TimeSlot} {lesson other : Lesson}
    (inRange : lesson.InRange slots) (otherInRange : other.InRange slots)
    (allowed : Move.roomAllowed lesson other.room) : (lesson.exchanged other).InRange slots := by
  refine ⟨⟨otherInRange.slot, inRange.teacher, ?_⟩, ?_⟩
  · intro room found
    change other.room = some room at found
    rw [found] at allowed
    change room ∈ lesson.candidateRooms
    simpa [Move.roomAllowed] using allowed
  · change other.room = none ↔ lesson.candidateRooms = []
    cases found : other.room with
    | none =>
        rw [found] at allowed
        simpa [Move.roomAllowed] using allowed
    | some room =>
        rw [found] at allowed
        have candidate : room ∈ lesson.candidateRooms := by simpa [Move.roomAllowed] using allowed
        simp [List.ne_nil_of_mem candidate]

end Lesson

def Timetable.InRange (timetable : Timetable) : Prop :=
  ∀ lesson ∈ timetable.lessons, lesson.InRange timetable.slots

theorem mem_placed_at {lessons : List Lesson} {position : Nat} {placement : Placement} {lesson : Lesson}
    (listed : lesson ∈ Director.placedAt lessons position placement) :
    lesson ∈ lessons ∨ ∃ original, lessons[position]? = some original ∧
      lesson = original.placed placement := by
  obtain ⟨place, found⟩ := List.mem_iff_getElem?.1 listed
  rw [Director.placedAt, List.getElem?_modify] at found
  split at found
  · rename_i here
    obtain ⟨original, there, same⟩ := Option.map_eq_some_iff.1 found
    exact .inr ⟨original, here ▸ there, same.symm⟩
  · have untouched : lessons[place]? = some lesson := by simpa using found
    exact .inl (List.mem_of_getElem? untouched)

namespace Move

open Director

variable {director moved : Director}

theorem perform_of_setting (timetable : Timetable) (director : Director) (position : Nat)
    (setting : Setting) :
    (ofSetting timetable position setting).perform director = director.change position [setting] := by
  unfold ofSetting
  cases timetable.lessons[position]? <;> rfl

theorem in_range_of_change {position : Nat} {setting : Setting}
    (inRange : director.timetable.InRange)
    (changed : director.change position [setting] = .ok moved)
    (keeps : ∀ lesson, director.timetable.lessons[position]? = some lesson →
      lesson.InRange director.timetable.slots →
      (lesson.placed (Setting.apply lesson.placement setting)).InRange director.timetable.slots) :
    moved.timetable.InRange := by
  rcases change_ok changed with ⟨-, ⟨-, rfl⟩ | ⟨lesson, found, rfl⟩⟩
  · exact inRange
  · rw [assign_lessons]
    intro other listed
    rcases mem_placed_at listed with before | ⟨original, there, rfl⟩
    · exact inRange other before
    · obtain rfl := Option.some.inj (there.symm.trans found)
      exact keeps original there (inRange original (List.mem_of_getElem? there))

theorem in_range_of_swap {first second : Nat} (inRange : director.timetable.InRange)
    (doable : (Move.swap first second).isDoable director.timetable)
    (performed : (Move.swap first second).perform director = .ok moved) : moved.timetable.InRange := by
  unfold isDoable at doable
  rw [Bool.and_eq_true] at doable
  have exchange := doable.2
  split at exchange
  · rename_i left right leftFound rightFound
    have leftInRange := inRange left (List.mem_of_getElem? leftFound)
    have rightInRange := inRange right (List.mem_of_getElem? rightFound)
    simp only [swapDoable, Bool.and_eq_true] at exchange
    rw [perform_swap_timetable leftFound rightFound performed]
    intro lesson listed
    rcases List.mem_or_eq_of_mem_set listed with written | rfl
    · rcases List.mem_or_eq_of_mem_set written with before | rfl
      · exact inRange lesson before
      · exact Lesson.in_range_exchanged leftInRange rightInRange exchange.1.2
    · exact Lesson.in_range_exchanged rightInRange leftInRange exchange.2
  · cases exchange

theorem in_range_of_perform {move : Move} (inRange : director.timetable.InRange)
    (offered : move.Offered director.timetable) (doable : move.isDoable director.timetable)
    (performed : move.perform director = .ok moved) : moved.timetable.InRange := by
  cases offered with
  | slot position slot listed =>
      rw [perform_of_setting] at performed
      apply in_range_of_change inRange performed
      intro lesson _ before
      exact ⟨⟨⟨slot, listed, rfl⟩, before.teacher, before.room⟩, before.roomless⟩
  | room position lesson found room candidate =>
      rw [perform_of_setting] at performed
      apply in_range_of_change inRange performed
      intro there thereFound before
      obtain rfl := Option.some.inj (found.symm.trans thereFound)
      refine ⟨⟨before.slot, before.teacher, ?_⟩, ?_⟩
      · intro other same
        obtain rfl := Option.some.inj same
        exact candidate
      · change some room = none ↔ lesson.candidateRooms = []
        simp [List.ne_nil_of_mem candidate]
  | teacher position lesson found teacher candidate =>
      rw [perform_of_setting] at performed
      apply in_range_of_change inRange performed
      intro there thereFound before
      obtain rfl := Option.some.inj (found.symm.trans thereFound)
      exact ⟨⟨before.slot, ⟨teacher, candidate, rfl⟩, before.room⟩, before.roomless⟩
  | swap first second => exact in_range_of_swap inRange doable performed

end Move

namespace LocalSearch

variable {Source : Type}

/-- The working placements of a search are in range, and so are its best ones. -/
structure InRange (search : LocalSearch Source) (base : Timetable) : Prop where
  working : search.director.timetable.InRange
  best : ∀ lesson ∈ base.lessonsWith search.best.snapshot, lesson.InRange base.slots

variable {search next : LocalSearch Source} {base : Timetable} {weights : Weights}

theorem in_range_keep {moved : Director} (inRange : search.InRange base)
    (tracks : moved.Tracks base weights) (movedInRange : moved.timetable.InRange) :
    (search.keep moved).InRange base := by
  unfold keep
  split
  · refine ⟨movedInRange, ?_⟩
    change ∀ lesson ∈ base.lessonsWith moved.timetable.snapshot, _
    rw [tracks.arranges.lessons_with_snapshot, ← tracks.arranges.slots]
    exact movedInRange
  · exact ⟨movedInRange, inRange.best⟩

variable [RandomSource Source]

theorem in_range_round (inRange : search.InRange base) (sound : search.Sound base weights)
    (done : search.round = .ok next) : next.InRange base := by
  cases round_to_of_round done with
  | idle => exact ⟨inRange.working, inRange.best⟩
  | @kept move moved between source acceptor selected performed accepted ended =>
      obtain ⟨offered, doable⟩ := Move.select_some selected
      have movedInRange := Move.in_range_of_perform inRange.working offered doable performed
      have counted : (search.counted source).InRange base := ⟨inRange.working, inRange.best⟩
      have after := in_range_keep counted (sound.tracks.perform performed) movedInRange
      exact ⟨after.working, after.best⟩
  | @undone move moved back between source acceptor selected performed rejected undone ended =>
      have offered := (Move.select_some selected).1
      obtain ⟨restored, restoredDone, same⟩ := Move.inverse_undoes offered.recalls performed
      obtain rfl := Except.ok.inj (undone.symm.trans restoredDone)
      refine ⟨?_, inRange.best⟩
      change back.timetable.InRange
      rw [same]
      exact inRange.working

end LocalSearch

end SchoolTimetable
