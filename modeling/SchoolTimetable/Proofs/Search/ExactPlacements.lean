import Mathlib.Data.Set.Function
import SchoolTimetable.Proofs.Evaluation.Counting
import SchoolTimetable.Proofs.Search.PlacementModels

/-!
What the solutions of a placement model stand for. A selection gives every lesson a slot and one of the
teachers on offer. The solutions of a complete model are the selections under which no teacher is away
and no teacher and no class is in two places, each of them once.
-/

namespace SchoolTimetable

section Matches

variable (weights : Weights)

theorem constraint_mem_impact_if (condition : Bool) (own constraint : Constraint) (score : Score) :
    constraint ∈ (impactIf condition own score).map (·.1) ↔ condition ∧ constraint = own := by
  cases condition <;> simp [impactIf]

theorem availability_matches_iff (lesson : Lesson) :
    .teacherAvailability ∈ (lessonMatches weights lesson).map (·.1) ↔ lesson.TeacherAway := by
  unfold lessonMatches
  cases placed : lesson.slot with
  | none => simp [Lesson.TeacherAway, placed]
  | some slot =>
      cases given : lesson.teacher with
      | none => simp [impactIf, Lesson.TeacherAway, given]
      | some teacher =>
          simp only [Option.toList_some, List.flatMap_cons, List.flatMap_nil, List.append_nil,
            teacherFaults, teacherPreferences, List.map_append, List.mem_append, constraint_mem_impact_if,
            reduceCtorEq, and_false, and_true, or_false, Lesson.teacher_away_iff placed given]

theorem conflict_matches_iff (first second : Lesson) :
    (.teacherConflict ∈ (pairMatches weights first second).map (·.1) ↔
      first.SharesSlot second ∧ first.SharesTeacher second) ∧
    (.classConflict ∈ (pairMatches weights first second).map (·.1) ↔
      first.SharesSlot second ∧ first.SharesClass second) := by
  unfold pairMatches
  cases firstPlaced : first.slot with
  | none => simp [Lesson.SharesSlot, firstPlaced]
  | some own =>
      cases secondPlaced : second.slot with
      | none => simp [Lesson.SharesSlot, secondPlaced]
      | some other =>
          rw [Lesson.shares_slot_iff firstPlaced secondPlaced,
            Lesson.shares_day_iff firstPlaced secondPlaced]
          by_cases meets : own.day = other.day ∧ first.overlaps second
          · simp only [meets.1, meets.2, beq_self_eq_true, Bool.and_self, ↓reduceIte, meetingMatches,
              List.map_append, List.mem_append, constraint_mem_impact_if, reduceCtorEq, and_false, and_true,
              or_false, false_or, Bool.and_eq_true, beq_iff_eq, Lesson.same_teacher_iff,
              Lesson.same_class_iff, true_and, and_self]
          · have apart : (own.day == other.day && first.overlaps second) = false := by
              simpa using meets
            simp [apart, meets]

end Matches

/-- No lesson has a teacher who is away, and no two conflict over a teacher or a class. -/
structure KeepsTimes (weights : Weights) (lessons : List Lesson) : Prop where
  available : ∀ lesson ∈ lessons, .teacherAvailability ∉ (lessonMatches weights lesson).map (·.1)
  apart : lessons.Pairwise fun first second =>
    .teacherConflict ∉ (pairMatches weights first second).map (·.1) ∧
      .classConflict ∉ (pairMatches weights first second).map (·.1)

/-- A slot and one of the teachers on offer for every lesson, by their numbers. -/
@[ext]
structure Selection (timetable : Timetable) where
  slot : Fin timetable.lessons.length → Fin timetable.slots.length
  option : (position : Fin timetable.lessons.length) →
    Fin timetable.lessons[position].teacherOptions.length

abbrev Valuation (model : PlacementModel) := { choice // choice ∈ model.choices } → Bool

def Valuation.takes {model : PlacementModel} (valuation : Valuation model) (choice : Choice) : Bool :=
  if listed : choice ∈ model.choices then valuation ⟨choice, listed⟩ else false

theorem Valuation.takes_of_mem {model : PlacementModel} (valuation : Valuation model) {choice : Choice}
    (listed : choice ∈ model.choices) : valuation.takes choice = valuation ⟨choice, listed⟩ :=
  dif_pos listed

namespace Selection

variable {timetable : Timetable} (selection : Selection timetable)

section Lessons

variable (position : Fin timetable.lessons.length)

def teacher : Option Teacher := timetable.lessons[position].teacherOptions[selection.option position]

/-- The lesson in its slot, with its teacher. -/
def lesson : Lesson :=
  timetable.lessons[position].placed
    ⟨some timetable.slots[selection.slot position], timetable.lessons[position].room,
      selection.teacher position⟩

def choice : Choice :=
  ⟨position, selection.slot position, selection.option position,
    timetable.lessons[position].schoolClass.id, selection.teacher position,
    timetable.lessons[position].pattern⟩

end Lessons

/-- The timetable with exactly the slots and teachers that are selected. -/
def arranged : Timetable := { timetable with lessons := List.ofFn selection.lesson }

/-- The variables of what is selected are taken, and no others. -/
def valuation : Valuation (PlacementModel.build timetable) := fun ⟨choice, _⟩ =>
  decide (∃ position, choice.lesson = position.val ∧ choice.slot = (selection.slot position).val ∧
    choice.option = (selection.option position).val)

section Choices

variable {selection} {position left right : Fin timetable.lessons.length}

theorem teacher_offered :
    timetable.lessons[position].teacherOptions[(selection.option position).val]? =
      some (selection.teacher position) :=
  List.getElem?_eq_getElem (selection.option position).isLt

theorem choice_listed_iff :
    selection.choice position ∈ lessonChoices timetable.slots position timetable.lessons[position] ↔
      ¬(selection.lesson position).TeacherAway := by
  have slotFound : timetable.slots[(selection.choice position).slot]? =
      some timetable.slots[selection.slot position] := List.getElem?_eq_getElem _
  rw [mem_lesson_choices_iff]
  constructor
  · rintro ⟨slot, teacher, sameSlot, sameTeacher, free, -⟩ ⟨own, placed, known, given, away⟩
    obtain rfl := Option.some.inj (slotFound.symm.trans sameSlot)
    obtain rfl := Option.some.inj (teacher_offered.symm.trans sameTeacher)
    obtain rfl := Option.some.inj placed
    have blocked : known.isBlockedAt timetable.slots[selection.slot position] := by
      simpa [Teacher.isBlockedAt, TimeSlot.key] using away
    rw [free known given] at blocked
    cases blocked
  · intro present
    refine ⟨_, _, slotFound, teacher_offered, ?_, rfl⟩
    intro known given
    by_contra blocked
    refine present ⟨_, rfl, known, given, ?_⟩
    simpa [Teacher.isBlockedAt, TimeSlot.key] using blocked

theorem shares_slot_iff (distinct : (timetable.slots.map (·.id)).Nodup) :
    (selection.lesson left).SharesSlot (selection.lesson right) ↔
      timetable.lessons[left].pattern.overlaps timetable.lessons[right].pattern ∧
        (selection.slot left).val = (selection.slot right).val := by
  have sameNumber : timetable.slots[selection.slot left].id = timetable.slots[selection.slot right].id →
      (selection.slot left).val = (selection.slot right).val := by
    have apart := List.pairwise_iff_getElem.1 (List.pairwise_map.1 distinct)
    intro sameId
    rcases lt_trichotomy (selection.slot left).val (selection.slot right).val with below | same | above
    · exact absurd sameId (apart _ _ _ _ below)
    · exact same
    · exact absurd sameId.symm (apart _ _ _ _ above)
  rw [Lesson.SharesSlot, Lesson.SharesWeek, ← WeekPattern.overlaps_iff]
  apply and_congr_right
  intro _
  constructor
  · rintro ⟨own, placed, other, alsoPlaced, -, sameId⟩
    obtain rfl := Option.some.inj placed
    obtain rfl := Option.some.inj alsoPlaced
    exact sameNumber sameId
  · intro same
    have sameSlot : timetable.slots[selection.slot left] = timetable.slots[selection.slot right] :=
      congrArg timetable.slots.get (Fin.ext same)
    exact ⟨_, rfl, _, rfl, by rw [sameSlot], by rw [sameSlot]⟩

theorem conflict_iff (distinct : (timetable.slots.map (·.id)).Nodup) (weights : Weights) :
    (.teacherConflict ∉ (pairMatches weights (selection.lesson left) (selection.lesson right)).map (·.1) ∧
      .classConflict ∉ (pairMatches weights (selection.lesson left) (selection.lesson right)).map (·.1)) ↔
    ¬(selection.choice left).meets (selection.choice right) := by
  obtain ⟨teachers, classes⟩ :=
    conflict_matches_iff weights (selection.lesson left) (selection.lesson right)
  rw [teachers, classes, Choice.meets_iff, Choice.shares_place_iff, ← not_or, ← and_or_left,
    shares_slot_iff distinct, and_assoc, or_comm]
  exact Iff.rfl

theorem keeps_times_iff (distinct : (timetable.slots.map (·.id)).Nodup) (weights : Weights) :
    KeepsTimes weights selection.arranged.lessons ↔
      (∀ position : Fin timetable.lessons.length, selection.choice position ∈
        lessonChoices timetable.slots position timetable.lessons[position]) ∧
      ∀ left right, (selection.choice left).meets (selection.choice right) → left = right := by
  have available : (∀ lesson ∈ selection.arranged.lessons,
      .teacherAvailability ∉ (lessonMatches weights lesson).map (·.1)) ↔
      ∀ position : Fin timetable.lessons.length, selection.choice position ∈
        lessonChoices timetable.slots position timetable.lessons[position] := by
    simp only [choice_listed_iff, availability_matches_iff]
    exact List.forall_mem_ofFn_iff
  have apart : (selection.arranged.lessons.Pairwise fun first second =>
      .teacherConflict ∉ (pairMatches weights first second).map (·.1) ∧
        .classConflict ∉ (pairMatches weights first second).map (·.1)) ↔
      ∀ left right, (selection.choice left).meets (selection.choice right) → left = right := by
    rw [arranged, List.pairwise_ofFn]
    constructor
    · intro apart left right meets
      rcases lt_trichotomy left right with below | same | above
      · exact absurd meets ((conflict_iff distinct weights).1 (apart below))
      · exact same
      · have swapped := apart above
        rw [pair_matches_swap] at swapped
        exact absurd meets ((conflict_iff distinct weights).1 swapped)
    · intro apart left right below
      exact (conflict_iff distinct weights).2 fun meets => below.ne (apart left right meets)
  rw [← available, ← apart]
  exact ⟨fun keeps => ⟨keeps.available, keeps.apart⟩, fun parts => ⟨parts.1, parts.2⟩⟩

theorem takes_iff {choice : Choice} : selection.valuation.takes choice ↔
    choice ∈ (PlacementModel.build timetable).choices ∧
      ∃ position, choice = selection.choice position := by
  by_cases listed : choice ∈ (PlacementModel.build timetable).choices
  · rw [Valuation.takes_of_mem _ listed]
    simp only [valuation, decide_eq_true_eq, listed, true_and]
    constructor
    · rintro ⟨position, sameLesson, sameSlot, sameOption⟩
      obtain ⟨lesson, found, member⟩ := mem_choices_of_build listed
      obtain ⟨slot, teacher, -, offered, -, made⟩ := mem_lesson_choices_iff.1 member
      rw [sameLesson] at found
      obtain rfl := Option.some.inj ((List.getElem?_eq_getElem position.isLt).symm.trans found)
      rw [sameOption] at offered
      have given := Option.some.inj (teacher_offered.symm.trans offered)
      refine ⟨position, made.trans ?_⟩
      rw [sameLesson, sameSlot, sameOption, ← given]
      rfl
    · rintro ⟨position, rfl⟩
      exact ⟨position, rfl, rfl, rfl⟩
  · simp [Valuation.takes, listed]

end Choices

end Selection

namespace PlacementModel

variable {timetable : Timetable}

/-- Building fails exactly at a lesson for which every teacher on offer is away in every slot. -/
theorem incomplete_iff : (build timetable).complete = false ↔
    ∃ lesson ∈ timetable.lessons, ∀ slot ∈ timetable.slots, ∀ teacher ∈ lesson.teacherOptions,
      ∃ known ∈ teacher, known.isBlockedAt slot := by
  have missing : (build timetable).complete = false ↔ [] ∈ lessonGroups timetable := by
    rcases build_cases timetable with ⟨missing, incomplete⟩ | ⟨all, complete, -⟩
    · exact ⟨fun _ => missing, fun _ => incomplete⟩
    · simp [all, complete]
  rw [missing, mem_lesson_groups]
  constructor
  · rintro ⟨position, lesson, found, empty⟩
    exact ⟨lesson, List.mem_of_getElem? found, lesson_choices_eq_nil_iff.1 empty.symm⟩
  · rintro ⟨lesson, listed, away⟩
    obtain ⟨position, found⟩ := List.mem_iff_getElem?.1 listed
    exact ⟨position, lesson, found, (lesson_choices_eq_nil_iff.2 away).symm⟩

section Solutions

variable {weights : Weights} (complete : (build timetable).complete = true)
  (distinct : (timetable.slots.map (·.id)).Nodup)

include complete distinct

theorem solves_of_keeps_times {selection : Selection timetable}
    (keeps : KeepsTimes weights selection.arranged.lessons) :
    (build timetable).Solves selection.valuation.takes := by
  obtain ⟨listed, apart⟩ := (Selection.keeps_times_iff distinct weights).1 keeps
  refine (solves_iff complete _).2 ⟨?_, ?_⟩
  · intro position lesson found
    obtain ⟨bound, rfl⟩ := List.getElem?_eq_some_iff.1 found
    have here := listed ⟨position, bound⟩
    refine ⟨selection.choice ⟨position, bound⟩, here, ?_, ?_⟩
    · exact Selection.takes_iff.2 ⟨mem_choices_of_complete complete found here, _, rfl⟩
    · intro other otherListed takes
      obtain ⟨-, elsewhere, rfl⟩ := Selection.takes_iff.1 takes
      have same : elsewhere = ⟨position, bound⟩ := Fin.ext (mem_lesson_choices otherListed).1
      rw [same]
  · intro first _ second _ takes takesOther meets
    obtain ⟨-, left, rfl⟩ := Selection.takes_iff.1 takes
    obtain ⟨-, right, rfl⟩ := Selection.takes_iff.1 takesOther
    rw [apart left right meets]

theorem eq_of_valuations {selection other : Selection timetable}
    (keeps : KeepsTimes weights selection.arranged.lessons)
    (same : selection.valuation = other.valuation) : selection = other := by
  obtain ⟨listed, -⟩ := (Selection.keeps_times_iff distinct weights).1 keeps
  have sameParts : ∀ position, selection.choice position = other.choice position := by
    intro position
    have takes : selection.valuation.takes (selection.choice position) :=
      Selection.takes_iff.2 ⟨mem_choices_of_complete complete
        (List.getElem?_eq_getElem position.isLt) (listed position), position, rfl⟩
    rw [same] at takes
    obtain ⟨-, elsewhere, equal⟩ := Selection.takes_iff.1 takes
    have here : elsewhere = position := Fin.ext (congrArg Choice.lesson equal).symm
    rw [equal, here]
  apply Selection.ext
  · funext position
    exact Fin.ext (congrArg Choice.slot (sameParts position))
  · funext position
    exact Fin.ext (congrArg Choice.option (sameParts position))

theorem exists_selection {valuation : Valuation (build timetable)}
    (solves : (build timetable).Solves valuation.takes) :
    ∃ selection : Selection timetable, KeepsTimes weights selection.arranged.lessons ∧
      selection.valuation = valuation := by
  obtain ⟨one, apart⟩ := (solves_iff complete _).1 solves
  have each : ∀ position : Fin timetable.lessons.length,
      ∃ (slot : Fin timetable.slots.length)
        (option : Fin timetable.lessons[position].teacherOptions.length),
        let chosen : Choice := ⟨position, slot, option, timetable.lessons[position].schoolClass.id,
          timetable.lessons[position].teacherOptions[option], timetable.lessons[position].pattern⟩
        chosen ∈ lessonChoices timetable.slots position timetable.lessons[position] ∧
          valuation.takes chosen := by
    intro position
    obtain ⟨chosen, listed, takes, -⟩ := one position _ (List.getElem?_eq_getElem position.isLt)
    obtain ⟨slot, teacher, slotFound, offered, -, made⟩ := mem_lesson_choices_iff.1 listed
    obtain ⟨slotBound, -⟩ := List.getElem?_eq_some_iff.1 slotFound
    obtain ⟨optionBound, rfl⟩ := List.getElem?_eq_some_iff.1 offered
    rw [made] at listed takes
    exact ⟨⟨chosen.slot, slotBound⟩, ⟨chosen.option, optionBound⟩, listed, takes⟩
  -- The variable that each lesson takes says its slot and its teacher.
  choose slot option listed takes using each
  let selection : Selection timetable := ⟨slot, option⟩
  have inModel : ∀ position, selection.choice position ∈ (build timetable).choices := fun position =>
    mem_choices_of_complete complete (List.getElem?_eq_getElem position.isLt) (listed position)
  refine ⟨selection, (Selection.keeps_times_iff distinct weights).2 ⟨listed, ?_⟩, ?_⟩
  · intro left right meets
    have equal := apart _ (inModel left) _ (inModel right) (takes left) (takes right) meets
    exact Fin.ext (congrArg Choice.lesson equal)
  · funext ⟨choice, member⟩
    rw [← Valuation.takes_of_mem selection.valuation member, ← Valuation.takes_of_mem valuation member,
      Bool.eq_iff_iff, Selection.takes_iff]
    constructor
    · rintro ⟨-, position, rfl⟩
      exact takes position
    · intro taken
      obtain ⟨lesson, found, here⟩ := mem_choices_of_build member
      obtain ⟨chosen, -, -, only⟩ := one choice.lesson lesson found
      obtain ⟨bound, rfl⟩ := List.getElem?_eq_some_iff.1 found
      let position : Fin timetable.lessons.length := ⟨choice.lesson, bound⟩
      have selected := only (selection.choice position) (listed position) (takes position)
      exact ⟨member, position, (only choice here taken).trans selected.symm⟩

end Solutions

/-- A model is incomplete exactly if some lesson cannot be given at any time. The solutions of a complete
one are, each of them once, the selections of slots and teachers under which no teacher is away and no
teacher or class has two lessons at a time. -/
theorem solutions_are_selections (timetable : Timetable) (weights : Weights)
    (distinct : (timetable.slots.map (·.id)).Nodup) :
    ((build timetable).complete = false ↔
      ∃ lesson ∈ timetable.lessons, ∀ slot ∈ timetable.slots, ∀ teacher ∈ lesson.teacherOptions,
        ∃ known ∈ teacher, known.isBlockedAt slot) ∧
    ((build timetable).complete = true →
      Set.BijOn Selection.valuation
        { selection : Selection timetable | KeepsTimes weights selection.arranged.lessons }
        { valuation | (build timetable).Solves valuation.takes }) := by
  refine ⟨incomplete_iff, ?_⟩
  intro complete
  refine ⟨?_, ?_, ?_⟩
  · intro selection keeps
    exact solves_of_keeps_times complete distinct keeps
  · intro selection keeps other _ same
    exact eq_of_valuations complete distinct keeps same
  · intro valuation solves
    exact exists_selection complete distinct solves

/-- A lesson of every week and one of A weeks, for which one teacher is on offer on Monday. -/
def twoLessons : Timetable :=
  let meier : Teacher := ⟨"meier", "Meier", none, 20, ["1-1"], [], [("maths", [5])]⟩
  let maths : Subject := ⟨"maths", "Maths", none⟩
  let fifth : SchoolClass := ⟨"5a", "5a", 5, none, none⟩
  let unplaced : Placement := ⟨none, none, none⟩
  { term := "autumn"
    slots := [⟨"monday-1", 0, 1, none, none⟩, ⟨"monday-2", 0, 2, none, none⟩,
      ⟨"tuesday-1", 1, 1, none, none⟩]
    rooms := []
    teachers := [meier]
    classes := [fifth]
    subjects := [maths]
    lessons := [⟨"first", fifth, maths, .every, [meier], [], unplaced⟩,
      ⟨"second", fifth, maths, .a, [meier], [], unplaced⟩]
    score := none
    isFinal := false }

theorem two_lessons_are_selected : (build twoLessons).complete = true ∧
    Set.BijOn Selection.valuation
      { selection : Selection twoLessons | KeepsTimes Weights.standard selection.arranged.lessons }
      { valuation | (build twoLessons).Solves valuation.takes } := by
  have complete : (build twoLessons).complete = true := by decide +kernel
  exact ⟨complete, (solutions_are_selections twoLessons Weights.standard (by decide)).2 complete⟩

end PlacementModel

end SchoolTimetable
