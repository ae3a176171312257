import SchoolTimetable.Proofs.Timetable.Arrangement
import SchoolTimetable.Search.Move

/-!
What moves do to a timetable. A move writes settings through the director, so score and index stay in
order; the inverse of a move that knows the value it replaces brings the timetable back, and the moves
that are picked know it.
-/

namespace SchoolTimetable

namespace Setting

theorem apply_current (setting : Setting) (placement : Placement) :
    apply (apply placement setting) (setting.current placement) = placement := by
  cases setting <;> rfl

theorem unknown_name_current (setting : Setting) (placement : Placement) :
    unknownName? [setting.current placement] = unknownName? [setting] := by
  cases setting <;> rfl

end Setting

def Lesson.exchanged (lesson other : Lesson) : Lesson :=
  lesson.placed { lesson.placement with slot := other.slot, room := other.room }

theorem Lesson.exchanged_back (lesson other : Lesson) :
    (lesson.exchanged other).exchanged (other.exchanged lesson) = lesson := rfl

namespace Director

theorem written_by_of_lesson {lessons : List Lesson} {position : Nat} {lesson : Lesson}
    (settings : List Setting) (found : lessons[position]? = some lesson) :
    writtenBy lessons (position, settings) =
      lessons.set position (lesson.placed (settings.foldl Setting.apply lesson.placement)) := by
  rw [writtenBy, List.modify_eq_set_getElem?, found]
  rfl

theorem change_of_working {director : Director} {settings : List Setting} (position : Nat)
    (working : director.timetable.isFinal = false) (known : Setting.unknownName? settings = none) :
    ∃ next, director.change position settings = .ok next := by
  have allowed : director.refuses (position, settings) = false := by simp [refuses, working, known]
  cases found : director.lesson? position with
  | none => exact ⟨_, change_of_no_lesson allowed found⟩
  | some lesson => exact ⟨_, change_of_lesson allowed found⟩

theorem change_ok_known {director next : Director} {position : Nat} {settings : List Setting}
    (changed : director.change position settings = .ok next) : Setting.unknownName? settings = none := by
  cases known : Setting.unknownName? settings with
  | none => rfl
  | some name =>
      have refused : director.refuses (position, settings) := by simp [refuses, known]
      obtain ⟨fault, failed⟩ := change_of_refused refused
      rw [failed] at changed
      cases changed

end Director

theorem set_found {lessons : List Lesson} {position : Nat} {lesson : Lesson}
    (found : lessons[position]? = some lesson) : lessons.set position lesson = lessons := by
  obtain ⟨bound, rfl⟩ := List.getElem?_eq_some_iff.1 found
  exact List.set_getElem_self bound

namespace Move

open Director

/-- The move was made for the timetable: a change carries the value that its lesson has now. -/
def Recalls (timetable : Timetable) : Move → Prop
  | .change position old new => .change position old new = ofSetting timetable position new
  | .swap _ _ => True

theorem recalls_of_setting (timetable : Timetable) (position : Nat) (setting : Setting) :
    (ofSetting timetable position setting).Recalls timetable := by
  unfold ofSetting
  cases found : timetable.lessons[position]? <;> simp [Recalls, ofSetting, found]

/-- How an exchange goes: with a lesson missing nothing is done, otherwise one change follows the
other. -/
theorem perform_swap_cases {director moved : Director} {first second : Nat}
    (performed : (Move.swap first second).perform director = .ok moved) :
    (director.lesson? first = none ∨ director.lesson? second = none) ∧ moved = director ∨
      ∃ left right half, director.lesson? first = some left ∧ director.lesson? second = some right ∧
        director.change first [.slot right.slot, .room right.room] = .ok half ∧
        half.change second [.slot left.slot, .room left.room] = .ok moved := by
  simp only [perform] at performed
  cases leftFound : director.lesson? first with
  | none =>
      simp only [leftFound, Except.ok.injEq] at performed
      exact .inl ⟨.inl rfl, performed.symm⟩
  | some left =>
      cases rightFound : director.lesson? second with
      | none =>
          simp only [leftFound, rightFound, Except.ok.injEq] at performed
          exact .inl ⟨.inr rfl, performed.symm⟩
      | some right =>
          simp only [leftFound, rightFound] at performed
          cases halfDone : director.change first [.slot right.slot, .room right.room] with
          | error fault =>
              rw [halfDone] at performed
              cases performed
          | ok half =>
              rw [halfDone] at performed
              exact .inr ⟨left, right, half, rfl, rfl, halfDone, performed⟩

theorem perform_swap_of_working {director : Director} (first second : Nat)
    (working : director.timetable.isFinal = false) :
    ∃ moved, (Move.swap first second).perform director = .ok moved := by
  simp only [perform]
  cases director.lesson? first with
  | none => exact ⟨director, rfl⟩
  | some left =>
      cases director.lesson? second with
      | none => exact ⟨director, rfl⟩
      | some right =>
          have firstKnown : Setting.unknownName? [.slot right.slot, .room right.room] = none := rfl
          have secondKnown : Setting.unknownName? [.slot left.slot, .room left.room] = none := rfl
          obtain ⟨half, halfDone⟩ := change_of_working first working firstKnown
          have halfWorking : half.timetable.isFinal = false := by
            rw [change_timetable halfDone]
            exact working
          obtain ⟨moved, done⟩ := change_of_working second halfWorking secondKnown
          simp only [halfDone]
          exact ⟨moved, done⟩

theorem perform_swap_timetable {director moved : Director} {first second : Nat} {left right : Lesson}
    (leftFound : director.lesson? first = some left) (rightFound : director.lesson? second = some right)
    (performed : (Move.swap first second).perform director = .ok moved) :
    moved.timetable = { director.timetable with
      lessons := (director.timetable.lessons.set first (left.exchanged right)).set second
        (right.exchanged left) } := by
  obtain ⟨missing | missing, -⟩ | ⟨_, _, half, leftSame, rightSame, halfDone, done⟩ :=
    perform_swap_cases performed
  · rw [missing] at leftFound
    cases leftFound
  · rw [missing] at rightFound
    cases rightFound
  · obtain rfl := Option.some.inj (leftFound.symm.trans leftSame)
    obtain rfl := Option.some.inj (rightFound.symm.trans rightSame)
    have firstWritten := change_timetable halfDone
    rw [written_by_of_lesson _ leftFound] at firstWritten
    have halfLessons : half.timetable.lessons =
        director.timetable.lessons.set first (left.exchanged right) := by
      rw [firstWritten]
      rfl
    have atSecond : ∃ there : Lesson, half.timetable.lessons[second]? = some there ∧
        there.exchanged left = right.exchanged left := by
      rw [halfLessons]
      by_cases same : first = second
      · subst same
        obtain rfl := Option.some.inj (leftFound.symm.trans rightFound)
        have bound := (List.getElem?_eq_some_iff.1 leftFound).1
        exact ⟨left.exchanged left, List.getElem?_set_self bound, rfl⟩
      · exact ⟨right, (List.getElem?_set_ne same).trans rightFound, rfl⟩
    obtain ⟨there, thereFound, thereWritten⟩ := atSecond
    have secondWritten := change_timetable done
    rw [written_by_of_lesson _ thereFound, halfLessons] at secondWritten
    rw [secondWritten, firstWritten, ← thereWritten]
    rfl

end Move

theorem Director.Tracks.perform {director moved : Director} {base : Timetable} {weights : Weights}
    {move : Move} (tracks : director.Tracks base weights) (performed : move.perform director = .ok moved) :
    moved.Tracks base weights := by
  cases move with
  | change position old new => exact tracks.change performed
  | swap first second =>
      rcases Move.perform_swap_cases performed with ⟨-, rfl⟩ | ⟨left, right, half, -, -, halfDone, done⟩
      · exact tracks
      · exact (tracks.change halfDone).change done

namespace Move

open Director

theorem change_undone {director moved : Director} {position : Nat} {old new : Setting}
    (recalls : (Move.change position old new).Recalls director.timetable)
    (changed : director.change position [new] = .ok moved) :
    ∃ back, moved.change position [old] = .ok back ∧ back.timetable = director.timetable := by
  have working := (change_ok changed).1
  have known := change_ok_known changed
  have written := change_timetable changed
  have stillWorking : moved.timetable.isFinal = false := by
    rw [written]
    exact working
  cases found : director.timetable.lessons[position]? with
  | none =>
      simp only [Recalls, ofSetting, found, Move.change.injEq, true_and, and_true] at recalls
      subst recalls
      rcases change_ok changed with ⟨-, ⟨-, rfl⟩ | ⟨lesson, present, -⟩⟩
      · exact ⟨moved, changed, rfl⟩
      · unfold lesson? at present
        rw [found] at present
        cases present
  | some lesson =>
      simp only [Recalls, ofSetting, found, Move.change.injEq, true_and, and_true] at recalls
      have oldKnown : Setting.unknownName? [old] = none := by
        rw [recalls, Setting.unknown_name_current]
        exact known
      obtain ⟨back, done⟩ := change_of_working position stillWorking oldKnown
      rw [written_by_of_lesson _ found] at written
      have movedLessons : moved.timetable.lessons = director.timetable.lessons.set position
          (lesson.placed (Setting.apply lesson.placement new)) := by
        rw [written]
        rfl
      have bound := (List.getElem?_eq_some_iff.1 found).1
      have there : moved.timetable.lessons[position]? =
          some (lesson.placed (Setting.apply lesson.placement new)) := by
        rw [movedLessons]
        exact List.getElem?_set_self bound
      have backWritten := change_timetable done
      rw [written_by_of_lesson _ there, movedLessons, List.set_set] at backWritten
      have restored : (lesson.placed (Setting.apply lesson.placement new)).placed
          ([old].foldl Setting.apply (Setting.apply lesson.placement new)) = lesson := by
        rw [recalls, List.foldl_cons, List.foldl_nil, Setting.apply_current]
        rfl
      refine ⟨back, done, ?_⟩
      rw [backWritten, Lesson.placed_placement, restored, set_found found, written]

theorem swap_undone {director moved : Director} {first second : Nat}
    (performed : (Move.swap first second).perform director = .ok moved) :
    ∃ back, (Move.swap first second).perform moved = .ok back ∧
      back.timetable = director.timetable := by
  obtain ⟨-, rfl⟩ | ⟨left, right, half, leftFound, rightFound, halfDone, done⟩ :=
    perform_swap_cases performed
  · exact ⟨moved, performed, rfl⟩
  · have working : moved.timetable.isFinal = false := by
      rw [change_timetable done]
      exact (change_ok done).1
    obtain ⟨back, backDone⟩ := perform_swap_of_working first second working
    refine ⟨back, backDone, ?_⟩
    have written := perform_swap_timetable leftFound rightFound performed
    have leftBound := (List.getElem?_eq_some_iff.1 leftFound).1
    have rightBound := (List.getElem?_eq_some_iff.1 rightFound).1
    have secondThere : moved.lesson? second = some (right.exchanged left) := by
      unfold lesson?
      rw [written]
      exact List.getElem?_set_self (by rwa [List.length_set])
    -- A lesson may be exchanged with itself, so the second writing can be over the first.
    have firstThere : moved.lesson? first = some (left.exchanged right) := by
      by_cases same : first = second
      · subst same
        obtain rfl := Option.some.inj (leftFound.symm.trans rightFound)
        exact secondThere
      · unfold lesson?
        rw [written]
        change ((director.timetable.lessons.set first (left.exchanged right)).set second
          (right.exchanged left))[first]? = some (left.exchanged right)
        rw [List.getElem?_set_ne (fun equal => same equal.symm)]
        exact List.getElem?_set_self leftBound
    have backWritten := perform_swap_timetable firstThere secondThere backDone
    rw [backWritten, written, Lesson.exchanged_back, Lesson.exchanged_back]
    have lessons : (((director.timetable.lessons.set first (left.exchanged right)).set second
        (right.exchanged left)).set first left).set second right = director.timetable.lessons := by
      by_cases same : first = second
      · subst same
        obtain rfl := Option.some.inj (leftFound.symm.trans rightFound)
        simp only [List.set_set]
        exact set_found leftFound
      · rw [List.set_comm _ _ same, List.set_set, List.set_comm _ _ (fun equal => same equal.symm),
          List.set_set, set_found leftFound, set_found rightFound]
    simp only [lessons]

theorem inverse_undoes {director moved : Director} {move : Move}
    (recalls : move.Recalls director.timetable) (performed : move.perform director = .ok moved) :
    ∃ back, move.inverse.perform moved = .ok back ∧ back.timetable = director.timetable := by
  cases move with
  | change position old new => exact change_undone recalls performed
  | swap first second => exact swap_undone performed

end Move

end SchoolTimetable
