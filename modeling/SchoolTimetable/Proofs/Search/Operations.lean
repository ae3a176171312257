import SchoolTimetable.Proofs.Search.Moves
import SchoolTimetable.Proofs.Sequencing
import SchoolTimetable.Search.Operation

/-!
Operations as they happen against what they come to. All checks of an operation stand before its first write, so
it either ends with the director that a change as a whole gives, or is refused with nothing written.
-/

namespace SchoolTimetable

namespace Setting

theorem current_apply_self (setting : Setting) (placement : Placement) :
    setting.current (apply placement setting) = setting := by
  cases setting <;> rfl

theorem apply_of_current {setting : Setting} {placement : Placement}
    (same : setting.current placement = setting) : apply placement setting = placement := by
  rw [← apply_current setting placement, same]
  cases setting <;> rfl

theorem current_apply_of_ne {first second : Setting} (different : first.variableName ≠ second.variableName)
    (placement : Placement) : first.current (apply placement second) = first.current placement := by
  cases first <;> cases second <;> first | rfl | exact absurd rfl different

theorem current_fold_of_absent {setting : Setting} {settings : List Setting}
    (absent : setting.variableName ∉ settings.map variableName) (placement : Placement) :
    setting.current (settings.foldl apply placement) = setting.current placement := by
  induction settings generalizing placement with
  | nil => rfl
  | cons first rest ih =>
      obtain ⟨different, others⟩ := not_or.1 (mt List.mem_cons.2 absent)
      rw [List.foldl_cons, ih others, current_apply_of_ne different]

theorem current_fold {settings : List Setting} (distinct : (settings.map variableName).Nodup)
    (placement : Placement) : ∀ setting ∈ settings,
      setting.current (settings.foldl apply placement) = setting := by
  induction settings generalizing placement with
  | nil => intro setting listed; cases listed
  | cons first rest ih =>
      obtain ⟨absent, restDistinct⟩ := List.nodup_cons.1 distinct
      intro setting listed
      rcases List.mem_cons.1 listed with rfl | later
      · rw [List.foldl_cons, current_fold_of_absent absent, current_apply_self]
      · exact ih restDistinct _ setting later

/-- Settings of different variables change nothing exactly if all of them hold already. -/
theorem fold_eq_self_iff {settings : List Setting} (distinct : (settings.map variableName).Nodup)
    (placement : Placement) : settings.foldl apply placement = placement ↔
      ∀ setting ∈ settings, setting.current placement = setting := by
  constructor
  · intro same setting listed
    have held := current_fold distinct placement setting listed
    rwa [same] at held
  · intro held
    clear distinct
    induction settings with
    | nil => rfl
    | cons first rest ih =>
        obtain ⟨own, others⟩ := List.forall_mem_cons.1 held
        rw [List.foldl_cons, apply_of_current own, ih others]

end Setting

namespace Operation

open Director

variable {director : Director} {position : Nat} {lesson : Lesson}

theorem check_arguments_run (settings : List Setting) (director : Director) :
    (checkArguments settings).run director =
      match Setting.takenName? settings with
      | some name => .error (.takenName name) director
      | none => .ok () director := by
  unfold checkArguments
  cases Setting.takenName? settings <;> rfl

theorem check_open_run (director : Director) : checkOpen.run director =
    if director.timetable.isFinal then .error (.finalTimetable director.timetable.term) director
    else .ok () director := by
  unfold checkOpen
  simp only [EStateM.run_bind, EStateM.run_get]
  split <;> rfl

theorem check_names_run (settings : List Setting) (director : Director) : (checkNames settings).run director =
    match Setting.unknownName? settings with
    | some name => .error (.unknownVariable name) director
    | none => .ok () director := by
  induction settings with
  | nil => rfl
  | cons setting rest ih =>
      cases setting with
      | unknown name => rfl
      | _ => exact ih

theorem lesson_of_written (found : director.lesson? position = some lesson) (written : Lesson) :
    (director.writeLesson position written).lesson? position = some written :=
  List.getElem?_set_self (List.getElem?_eq_some_iff.1 found).1

theorem write_lesson_again (director : Director) (position : Nat) (first second : Lesson) :
    (director.writeLesson position first).writeLesson position second = director.writeLesson position second := by
  unfold writeLesson
  simp only [List.set_set]

theorem write_same_lesson (found : director.lesson? position = some lesson) :
    director.writeLesson position lesson = director := by
  unfold writeLesson
  rw [set_found found]

theorem write_placement_run (found : director.lesson? position = some lesson) (change : Placement → Placement) :
    (writePlacement position change).run director =
      .ok () (director.writeLesson position (lesson.placed (change lesson.placement))) := by
  unfold writePlacement
  simp only [EStateM.run_bind, EStateM.run_get, found]
  rfl

/-- Settings that are written one after the other are written as one placement. -/
theorem write_settings_run (settings : List Setting) (found : director.lesson? position = some lesson) :
    (writeSettings position settings).run director =
      .ok () (director.writeLesson position (lesson.placed (settings.foldl Setting.apply lesson.placement))) := by
  induction settings generalizing director lesson with
  | nil =>
      rw [List.foldl_nil, Lesson.placed, write_same_lesson found]
      rfl
  | cons setting rest ih =>
      unfold writeSettings
      rw [EStateM.run_bind, write_placement_run found]
      dsimp only
      rw [ih (lesson_of_written found _), write_lesson_again]
      rfl

/-- An operation that ends with a director and its score, or is refused and leaves the director as it was. -/
def outcome (start : Director) : Except PlanningFault Director → EStateM.Result PlanningFault Director Score
  | .ok next => .ok next.score next
  | .error fault => .error fault start

/-- The settings all hold exactly if writing them would leave the placement. -/
theorem all_current_iff {settings : List Setting} (distinct : (settings.map Setting.variableName).Nodup)
    (placement : Placement) : (settings.all fun setting => setting.current placement == setting) = true ↔
      settings.foldl Setting.apply placement = placement := by
  rw [Setting.fold_eq_self_iff distinct, List.all_eq_true]
  simp only [beq_iff_eq]

/-- Taking a lesson out, writing its settings and putting it back is to assign what they make of its placement. -/
theorem rewrite_run {settings : List Setting} (found : director.lesson? position = some lesson)
    (changes : settings.foldl Setting.apply lesson.placement ≠ lesson.placement) :
    (do
      modify fun director => director.retract position lesson
      writeSettings position settings
      modify fun director => (director.lesson? position).elim director (director.insert position)
      return (← get).score : Operation Score).run director =
      outcome director (.ok (director.assign position (settings.foldl Setting.apply lesson.placement))) := by
  have retracted : (director.retract position lesson).lesson? position = some lesson := found
  unfold assign
  rw [found]
  dsimp only
  rw [if_neg changes]
  simp only [EStateM.run_bind, EStateM.run_modify, write_settings_run settings retracted, EStateM.run_get,
    lesson_of_written retracted, Option.elim_some]
  rfl

theorem set_variables_run {settings : List Setting} (distinct : (settings.map Setting.variableName).Nodup)
    (director : Director) (position : Nat) :
    (setVariables position settings).run director = outcome director (director.change position settings) := by
  unfold setVariables change
  simp only [EStateM.run_bind, check_arguments_run, check_open_run]
  cases Setting.takenName? settings with
  | some name => rfl
  | none =>
  dsimp only
  by_cases final : director.timetable.isFinal = true
  · rw [if_pos final, if_pos final]
    rfl
  rw [if_neg final, if_neg final]
  dsimp only
  rw [check_names_run]
  cases Setting.unknownName? settings with
  | some name => rfl
  | none =>
      dsimp only
      simp only [EStateM.run_get]
      cases found : director.lesson? position with
      | none => rfl
      | some lesson =>
          dsimp only
          by_cases held : settings.foldl Setting.apply lesson.placement = lesson.placement
          · rw [if_pos ((all_current_iff distinct _).2 held), held]
            unfold assign
            rw [found]
            dsimp only
            rw [if_pos rfl]
            rfl
          · rw [if_neg (mt (all_current_iff distinct _).1 held)]
            exact rewrite_run found held

theorem set_variable_run (director : Director) (position : Nat) (setting : Setting) :
    (setVariable position setting).run director = outcome director (director.change position [setting]) := by
  have distinct : ([setting].map Setting.variableName).Nodup := List.nodup_singleton _
  exact set_variables_run distinct director position

/-- A move in place is the move of the director as a whole. If the first of the two changes of an exchange is not
refused then neither is the second. -/
theorem make_move_run (move : Move) (director : Director) :
    (makeMove move).run director = outcome director (move.perform director) := by
  cases move with
  | change position old new => exact set_variable_run director position new
  | swap first second =>
      have distinct : ∀ slot room, ([Setting.slot slot, .room room].map Setting.variableName).Nodup := by
        intro slot room
        change ["time_slot", "room"].Nodup
        decide
      unfold makeMove Move.perform
      simp only [EStateM.run_bind, EStateM.run_get]
      cases director.lesson? first with
      | none => rfl
      | some left =>
          cases director.lesson? second with
          | none => rfl
          | some right =>
              dsimp only
              rw [EStateM.run_bind, run_discard, set_variables_run (distinct right.slot right.room)]
              cases halfDone : director.change first [.slot right.slot, .room right.room] with
              | error fault => rfl
              | ok half =>
                  have working : half.timetable.isFinal = false := by
                    rw [change_timetable halfDone]
                    exact (change_ok halfDone).1
                  have known : Setting.unknownName? [.slot left.slot, .room left.room] = none := rfl
                  obtain ⟨moved, done⟩ := change_of_working second working known
                  dsimp only [outcome]
                  rw [set_variables_run (distinct left.slot left.room), done]
                  change _ = outcome director (half.change second [.slot left.slot, .room left.room])
                  rw [done]
                  rfl

/-- Once the first of some placements is written the rest is written from the next position on. -/
theorem zip_placed_cons {lessons : List Lesson} (bound : position < lessons.length) (placement : Placement)
    (rest : Snapshot) :
    (lessons.set position (lessons[position].placed placement)).take (position + 1) ++
        ((lessons.set position (lessons[position].placed placement)).drop (position + 1)).zipWith
          Lesson.placed rest =
      lessons.take position ++ (lessons.drop position).zipWith Lesson.placed (placement :: rest) := by
  rw [List.take_succ_eq_append_getElem (by rwa [List.length_set]), List.getElem_set_self,
    List.take_set_of_le (Nat.le_refl position), List.drop_set_of_lt (Nat.lt_succ_self position),
    List.drop_eq_getElem_cons bound, List.zipWith_cons_cons, List.append_assoc]
  rfl

/-- Placements that are written from a position on go to the lessons from there on. -/
theorem write_back_run (snapshot : Snapshot) (director : Director) (position : Nat)
    (fits : position + snapshot.length = director.timetable.lessons.length) :
    (writeBack position snapshot).run director = .ok () { director with
      timetable := { director.timetable with
        lessons := director.timetable.lessons.take position ++
          (director.timetable.lessons.drop position).zipWith Lesson.placed snapshot } } := by
  induction snapshot generalizing director position with
  | nil =>
      have all : director.timetable.lessons.take position = director.timetable.lessons :=
        List.take_of_length_le (Nat.le_of_eq fits.symm)
      rw [List.zipWith_nil_right, List.append_nil, all]
      rfl
  | cons placement rest ih =>
      rw [List.length_cons] at fits
      have bound : position < director.timetable.lessons.length := by omega
      have found : director.lesson? position = some director.timetable.lessons[position] :=
        List.getElem?_eq_getElem bound
      have restFits : position + 1 + rest.length = (director.timetable.lessons.set position
          (director.timetable.lessons[position].placed placement)).length := by
        rw [List.length_set]
        omega
      unfold writeBack
      rw [EStateM.run_bind, write_placement_run found]
      dsimp only
      rw [ih _ _ restFits]
      unfold writeLesson
      dsimp only
      rw [zip_placed_cons bound]

/-- Restoring in place writes a snapshot that fits as a whole; one that does not is refused before. -/
theorem restore_run (snapshot : Snapshot) (director : Director) : (restore snapshot).run director =
    match director.timetable.restore snapshot with
    | .ok restored => .ok () { director with timetable := restored }
    | .error fault => .error fault director := by
  unfold restore Timetable.restore Timetable.checkSnapshot
  simp only [EStateM.run_bind, check_open_run]
  by_cases final : director.timetable.isFinal = true
  · rw [if_pos final, if_pos final]
    rfl
  rw [if_neg final, if_neg final]
  dsimp only
  simp only [EStateM.run_get]
  by_cases fits : snapshot.length = director.timetable.lessons.length
  · rw [if_neg (not_not.2 fits), if_pos fits]
    have written := write_back_run snapshot director 0 (by omega)
    rw [List.take_zero, List.nil_append, List.drop_zero] at written
    exact written
  · rw [if_pos fits, if_neg fits]
    rfl

end Operation

end SchoolTimetable
