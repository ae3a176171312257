import Mathlib.Data.Set.List
import SchoolTimetable.Proofs.Search.ExactPlacements
import SchoolTimetable.Proofs.Timetable.Assembled

/-!
What placing all lessons at once leaves behind. If a solution of the model is taken, every lesson has the
slot and the teacher that the solution selects for it. Teachers and classes then keep their times, so all
that can still cost hard points are rooms, and without rooms none are lost.
-/

namespace SchoolTimetable

section Counts

variable {lessons : List Lesson}

theorem count_lessons_eq_zero {counted : Lesson → Prop} [DecidablePred counted]
    (none : ∀ lesson ∈ lessons, ¬ counted lesson) : countLessons lessons counted = 0 := by
  apply Finset.card_eq_zero.2
  apply Finset.filter_eq_empty_iff.2
  intro position _
  exact none _ (List.getElem_mem position.isLt)

theorem count_pairs_eq_zero {counted : Lesson → Lesson → Prop} [DecidableRel counted]
    (none : lessons.Pairwise fun first second => ¬ counted first second) :
    countPairs lessons counted = 0 := by
  apply Finset.card_eq_zero.2
  apply Finset.filter_eq_empty_iff.2
  intro pair listed
  have before : pair.1 < pair.2 := (Finset.mem_filter.1 listed).2
  exact List.pairwise_iff_getElem.1 none _ _ pair.1.isLt pair.2.isLt before

structure Staffed (weights : Weights) (lessons : List Lesson) : Prop extends
    KeepsTimes weights lessons where
  qualified : ∀ lesson ∈ lessons, ¬ lesson.TeacherUnqualified

theorem Staffed.hard {weights : Weights} (staffed : Staffed weights lessons) :
    (fullScore weights lessons).hard =
      -(((countPairs lessons fun first second => first.SharesSlot second ∧ first.SharesRoom second) +
        countLessons lessons Lesson.RoomTooSmall : Nat) : Int) := by
  have away : countLessons lessons Lesson.TeacherAway = 0 := by
    apply count_lessons_eq_zero
    intro lesson listed
    rw [← availability_matches_iff weights]
    exact staffed.available lesson listed
  have unqualified : countLessons lessons Lesson.TeacherUnqualified = 0 :=
    count_lessons_eq_zero staffed.qualified
  have teachers : (countPairs lessons fun first second =>
      first.SharesSlot second ∧ first.SharesTeacher second) = 0 := by
    apply count_pairs_eq_zero
    apply staffed.apart.imp
    intro first second apart
    rw [← (conflict_matches_iff weights first second).1]
    exact apart.1
  have classes : (countPairs lessons fun first second =>
      first.SharesSlot second ∧ first.SharesClass second) = 0 := by
    apply count_pairs_eq_zero
    apply staffed.apart.imp
    intro first second apart
    rw [← (conflict_matches_iff weights first second).2]
    exact apart.2
  rw [full_score_eq_counts]
  unfold countFaults
  rw [away, unqualified, teachers, classes]
  simp only [Nat.zero_add, Nat.add_zero]

theorem Staffed.hard_of_no_rooms {weights : Weights} (staffed : Staffed weights lessons)
    (noRooms : ∀ lesson ∈ lessons, lesson.room = none) : (fullScore weights lessons).hard = 0 := by
  have conflicts : (countPairs lessons fun first second =>
      first.SharesSlot second ∧ first.SharesRoom second) = 0 := by
    apply count_pairs_eq_zero
    apply List.pairwise_of_forall_mem_list
    intro first listed second _ conflict
    rcases conflict.2 with ⟨room, used, -⟩
    rw [noRooms first listed] at used
    cases used
  have small : countLessons lessons Lesson.RoomTooSmall = 0 := by
    apply count_lessons_eq_zero
    intro lesson listed tooSmall
    rcases tooSmall with ⟨_, _, room, used, -⟩
    rw [noRooms lesson listed] at used
    cases used
  rw [staffed.hard, conflicts, small]
  rfl

end Counts

namespace Selection

open Director

variable {timetable : Timetable} (selection : Selection timetable)

def partly (positions : List (Fin timetable.lessons.length)) : List Lesson :=
  List.ofFn fun position =>
    if positions.contains position then selection.lesson position else timetable.lessons.get position

theorem partly_none : selection.partly [] = timetable.lessons := by
  simp [partly]

theorem partly_all {positions : List (Fin timetable.lessons.length)}
    (all : ∀ position, position ∈ positions) : selection.partly positions = selection.arranged.lessons := by
  simp [partly, arranged, all]

/-- Whether or not a lesson has its slot and teacher already, it is given what is selected for it. -/
theorem written_partly (position : Fin timetable.lessons.length)
    (done : List (Fin timetable.lessons.length)) :
    writtenBy (selection.partly done) (position.val,
        [.slot (some (timetable.slots.get (selection.slot position))),
          .teacher (selection.teacher position)]) =
      selection.partly (position :: done) := by
  unfold writtenBy partly
  apply List.ext_getElem
  · rw [List.length_modify, List.length_ofFn, List.length_ofFn]
  · intro place bound alsoBound
    rw [List.getElem_modify, List.getElem_ofFn, List.getElem_ofFn]
    rw [List.length_ofFn] at alsoBound
    by_cases here : position.val = place
    · have same : (⟨place, alsoBound⟩ : Fin timetable.lessons.length) = position := Fin.ext here.symm
      rw [if_pos here, same, List.contains_cons, BEq.rfl, Bool.true_or, if_pos rfl]
      split <;> rfl
    · have apart : (⟨place, alsoBound⟩ : Fin timetable.lessons.length) ≠ position :=
        fun same => here (congrArg Fin.val same).symm
      rw [if_neg here]
      rw [List.contains_cons, beq_false_of_ne apart, Bool.false_or]

variable {selection} {director next : Director}
  {positions done : List (Fin timetable.lessons.length)}

theorem apply_choice_partly {position : Fin timetable.lessons.length}
    (before : director.timetable = { timetable with lessons := selection.partly done })
    (applied : director.applyChoice (selection.choice position) = .ok next) :
    next.timetable = { timetable with lessons := selection.partly (position :: done) } := by
  have found : director.timetable.slots[(selection.choice position).slot]? =
      some timetable.slots[selection.slot position] := by
    rw [before]
    exact List.getElem?_eq_getElem _
  rcases apply_choice_ok applied with ⟨slot, same, changed⟩ | ⟨missing, -⟩
  · rw [found] at same
    rw [← Option.some.inj same] at changed
    rw [change_timetable changed, before, ← selection.written_partly position done]
    rfl
  · rw [found] at missing
    cases missing

theorem apply_choices_partly
    (before : director.timetable = { timetable with lessons := selection.partly done })
    (applied : (positions.map selection.choice).foldlM applyChoice director = .ok next) :
    next.timetable = { timetable with lessons := selection.partly (positions.reverse ++ done) } := by
  induction positions generalizing director done with
  | nil =>
      rw [← Except.ok.inj applied]
      exact before
  | cons position rest ih =>
      rw [List.map_cons, List.foldlM_cons] at applied
      rcases bind_ok.1 applied with ⟨between, first, others⟩
      rw [List.reverse_cons, List.append_assoc]
      exact ih (apply_choice_partly before first) others

section Assembled

variable {problem : Problem} {config : Config} {warnings : List WorkloadWarning} {weights : Weights}

/-- What is selected for assembled lessons gives each of them a slot and one of its teachers. -/
theorem assembled_of_mem_arranged (assembled : problem.assemble config = .ok (timetable, warnings))
    {lesson : Lesson} (arranged : lesson ∈ selection.arranged.lessons) :
    lesson.slot ≠ none ∧ lesson.teacher ≠ none ∧ lesson.room = none ∧ ¬ lesson.TeacherUnqualified := by
  rcases List.mem_ofFn.1 arranged with ⟨position, rfl⟩
  have listed : timetable.lessons[position] ∈ timetable.lessons := List.getElem_mem position.isLt
  have completable := (Problem.completable_of_mem_assembled assembled listed).1
  have qualified := Problem.qualified_of_mem_assembled assembled listed
  have offered : selection.teacher position ∈ timetable.lessons[position].teacherOptions :=
    List.mem_of_getElem? teacher_offered
  rcases Lesson.mem_teacher_options completable.teachers offered with ⟨teacher, candidate, given⟩
  have given : (selection.lesson position).teacher = some teacher := given
  have placed : (selection.lesson position).slot = some timetable.slots[selection.slot position] := rfl
  refine ⟨?_, ?_, qualified.1, ?_⟩
  · rw [placed]
    exact Option.some_ne_none _
  · rw [given]
    exact Option.some_ne_none _
  · rw [Lesson.teacher_unqualified_iff placed given]
    have knows : teacher.isQualifiedFor (selection.lesson position).subject.id
      (selection.lesson position).schoolClass.grade = true := qualified.2 teacher candidate
    rw [knows]
    decide

theorem staffed_of_assembled (assembled : problem.assemble config = .ok (timetable, warnings))
    (keeps : KeepsTimes weights selection.arranged.lessons) :
    Staffed weights selection.arranged.lessons :=
  ⟨keeps, fun _ arranged => (assembled_of_mem_arranged assembled arranged).2.2.2⟩

end Assembled

end Selection

namespace PlacementModel

variable {timetable : Timetable} {weights : Weights}

/-- A solution takes the variables of a selection, under which teachers and classes keep their times. -/
theorem selection_of_solves (weights : Weights) (complete : (build timetable).complete = true)
    (distinct : (timetable.slots.map (·.id)).Nodup) {taken : Choice → Bool}
    (solves : (build timetable).Solves taken) :
    ∃ selection : Selection timetable, KeepsTimes weights selection.arranged.lessons ∧
      ∀ choice ∈ (build timetable).choices,
        taken choice ↔ ∃ position, choice = selection.choice position := by
  -- Selections stand for valuations of the model's own variables, so what is taken beyond them is left out.
  let valuation : Valuation (build timetable) := fun choice => taken choice.1
  have same : ∀ choice ∈ (build timetable).choices, valuation.takes choice = taken choice :=
    fun choice listed => valuation.takes_of_mem listed
  have valued : (build timetable).Solves valuation.takes := by
    have parts := (solves_iff complete taken).1 solves
    apply (solves_iff complete valuation.takes).2
    constructor
    · intro position lesson found
      have inModel : ∀ choice ∈ lessonChoices timetable.slots position lesson,
          valuation.takes choice = taken choice :=
        fun choice listed => same choice (mem_choices_of_complete complete found listed)
      rcases parts.1 position lesson found with ⟨chosen, listed, takes, only⟩
      refine ⟨chosen, listed, ?_, ?_⟩
      · rw [inModel chosen listed]
        exact takes
      · intro other otherListed takesOther
        rw [inModel other otherListed] at takesOther
        exact only other otherListed takesOther
    · intro first listed second otherListed takes takesOther
      rw [same first listed] at takes
      rw [same second otherListed] at takesOther
      exact parts.2 first listed second otherListed takes takesOther
  have found : ∃ selection : Selection timetable, KeepsTimes weights selection.arranged.lessons ∧
      selection.valuation = valuation := exists_selection complete distinct valued
  rcases found with ⟨selection, keeps, valued⟩
  refine ⟨selection, keeps, ?_⟩
  intro choice listed
  rw [← same choice listed, ← valued, Selection.takes_iff]
  exact ⟨fun parts => parts.2, fun known => ⟨listed, known⟩⟩

end PlacementModel

namespace Director

variable {timetable : Timetable} {weights : Weights} {placer : ExactPlacer} {seed : Option Int}
  {next : Director}

/-- If a placer answers with solutions only, all lessons are placed as one of them selects. -/
theorem arranged_of_optimal (distinct : (timetable.slots.map (·.id)).Nodup)
    (sound : ∀ taken, placer (PlacementModel.build timetable) = some taken →
      (PlacementModel.build timetable).Solves taken)
    (placed : (ofTimetable timetable weights).placeExactlyBy placer seed = .ok (.optimal, next)) :
    ∃ selection : Selection timetable, KeepsTimes weights selection.arranged.lessons ∧
      next.timetable = selection.arranged := by
  have fresh := of_timetable_timetable timetable weights
  rcases place_exactly_ok placed with ⟨unplaced, -⟩ | ⟨-, taken, complete, answered, applied⟩
  · exact absurd rfl unplaced
  rw [fresh] at complete answered applied
  rcases PlacementModel.selection_of_solves weights complete distinct (sound taken answered) with
    ⟨selection, keeps, takes⟩
  refine ⟨selection, keeps, ?_⟩
  -- The choices that are applied are those of the selection, that of each lesson among them.
  have known : ∀ choice ∈ (PlacementModel.build timetable).choices.filter taken,
      choice ∈ Set.range selection.choice := by
    intro choice listed
    have member := List.mem_filter.1 listed
    rcases (takes choice member.1).1 member.2 with ⟨position, same⟩
    exact ⟨position, same.symm⟩
  have chosen : (PlacementModel.build timetable).choices.filter taken ∈
      Set.range (List.map selection.choice) := by
    rw [Set.range_list_map]
    exact known
  rcases chosen with ⟨positions, chosen⟩
  have all : ∀ position, position ∈ positions.reverse ++ [] := by
    intro position
    have offered := ((Selection.keeps_times_iff distinct weights).1 keeps).1 position
    have listed := PlacementModel.mem_choices_of_complete complete
      (List.getElem?_eq_getElem position.isLt) offered
    have taken : selection.choice position ∈ positions.map selection.choice := by
      rw [chosen]
      exact List.mem_filter.2 ⟨listed, (takes _ listed).2 ⟨position, rfl⟩⟩
    rcases List.mem_map.1 taken with ⟨other, member, same⟩
    have equal : other = position := Fin.ext (congrArg Choice.lesson same)
    rw [List.append_nil, List.mem_reverse, ← equal]
    exact member
  rw [← chosen] at applied
  have before : (ofTimetable timetable weights).timetable =
      { timetable with lessons := selection.partly [] } := by
    rw [fresh, selection.partly_none]
  rw [Selection.apply_choices_partly before applied, selection.partly_all all]
  rfl

end Director

end SchoolTimetable
