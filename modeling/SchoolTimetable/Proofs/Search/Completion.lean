import SchoolTimetable.Proofs.Search.Construction
import SchoolTimetable.Proofs.Search.Ranges

/-!
Construction brings every lesson into its ranges. Whichever choices are taken when all lessons are
placed at once, each of them is a slot and a teacher of its lesson; what is left open is completed from
the ranges, one lesson after the other, and a completed lesson is not touched again.
-/

namespace SchoolTimetable

namespace Lesson

/-- Someone can give the lesson, and it is still open or has all it needs but perhaps a room. -/
structure Completable (slots : List TimeSlot) (lesson : Lesson) : Prop where
  teachers : lesson.candidateTeachers ≠ []
  progress : lesson.slot = none ∧ lesson.room = none ∨ lesson.Seated slots

variable {slots : List TimeSlot} {lesson : Lesson}

theorem mem_teacher_options (teachers : lesson.candidateTeachers ≠ []) {teacher : Option Teacher}
    (offered : teacher ∈ lesson.teacherOptions) :
    ∃ candidate ∈ lesson.candidateTeachers, teacher = some candidate := by
  rw [teacherOptions, if_neg (by simpa using teachers)] at offered
  obtain ⟨candidate, member, same⟩ := List.mem_map.1 offered
  exact ⟨candidate, member, same.symm⟩

theorem mem_room_options {room : Option Room} (offered : room ∈ lesson.roomOptions) :
    (∀ candidate, room = some candidate → candidate ∈ lesson.candidateRooms) ∧
      (room = none ↔ lesson.candidateRooms = []) := by
  unfold roomOptions at offered
  split at offered
  · rename_i noRooms
    obtain rfl := List.mem_singleton.1 offered
    exact ⟨fun candidate same => (nomatch same), by simpa using noRooms⟩
  · rename_i someRooms
    obtain ⟨member, listed, rfl⟩ := List.mem_map.1 offered
    constructor
    · intro candidate same
      obtain rfl := Option.some.inj same
      exact listed
    · simp [List.ne_nil_of_mem listed]

theorem in_range_of_placeable (teachers : lesson.candidateTeachers ≠ []) {placement : Placement}
    (placeable : lesson.Placeable slots placement) : (lesson.placed placement).InRange slots := by
  obtain ⟨candidate, roomless⟩ := mem_room_options placeable.room
  exact ⟨⟨placeable.slot, mem_teacher_options teachers placeable.teacher, candidate⟩, roomless⟩

theorem in_range_of_settled (completable : lesson.Completable slots) (hasSlot : lesson.slot ≠ none)
    (settled : lesson.room ≠ none ∨ lesson.candidateRooms = []) : lesson.InRange slots := by
  rcases completable.progress with ⟨lacksSlot, -⟩ | seated
  · exact absurd lacksSlot hasSlot
  · refine ⟨seated, ?_, ?_⟩
    · intro lacksRoom
      exact settled.resolve_left (fun hasRoom => hasRoom lacksRoom)
    · intro noRooms
      cases found : lesson.room with
      | none => rfl
      | some room =>
          have candidate := seated.room room found
          rw [noRooms] at candidate
          cases candidate

theorem in_range_of_roomed (completable : lesson.Completable slots) (hasSlot : lesson.slot ≠ none)
    {room : Room} (candidate : room ∈ lesson.candidateRooms) :
    (lesson.placed { lesson.placement with room := some room }).InRange slots := by
  rcases completable.progress with ⟨lacksSlot, -⟩ | seated
  · exact absurd lacksSlot hasSlot
  · refine ⟨⟨seated.slot, seated.teacher, ?_⟩, ?_⟩
    · intro other same
      obtain rfl := Option.some.inj same
      exact candidate
    · change some room = none ↔ lesson.candidateRooms = []
      simp [List.ne_nil_of_mem candidate]

theorem InRange.completable (inRange : lesson.InRange slots) : lesson.Completable slots := by
  obtain ⟨teacher, candidate, -⟩ := inRange.teacher
  exact ⟨List.ne_nil_of_mem candidate, .inr inRange.toSeated⟩

end Lesson

namespace Director

variable {start director next : Director} {position : Nat} {placement : Placement} {lesson : Lesson}

theorem Places.slots (places : start.Places position placement next) :
    next.timetable.slots = start.timetable.slots := by
  rw [places.timetable]

theorem Places.lesson_here (places : start.Places position placement next)
    (found : start.lesson? position = some lesson) :
    next.lesson? position = some (lesson.placed placement) := by
  unfold lesson? at found ⊢
  rw [places.timetable]
  simp [placedAt, found]

theorem Places.lesson_elsewhere {place : Nat} (places : start.Places position placement next)
    (elsewhere : place ≠ position) : next.lesson? place = start.lesson? place := by
  unfold lesson?
  rw [places.timetable]
  simp [placedAt, elsewhere.symm]

def Settled (director : Director) (position : Nat) : Prop :=
  ∀ lesson, director.lesson? position = some lesson → lesson.InRange director.timetable.slots

def Completable (director : Director) : Prop :=
  ∀ position lesson, director.lesson? position = some lesson →
    lesson.Completable director.timetable.slots

theorem Places.settled (places : start.Places position placement next)
    (found : start.lesson? position = some lesson)
    (inRange : (lesson.placed placement).InRange start.timetable.slots) : next.Settled position := by
  intro there thereFound
  rw [places.lesson_here found] at thereFound
  obtain rfl := Option.some.inj thereFound
  rw [places.slots]
  exact inRange

theorem Places.settled_elsewhere {place : Nat} (places : start.Places position placement next)
    (elsewhere : place ≠ position) (settled : start.Settled place) : next.Settled place := by
  intro there thereFound
  rw [places.lesson_elsewhere elsewhere] at thereFound
  rw [places.slots]
  exact settled there thereFound

theorem Places.completable (places : start.Places position placement next)
    (found : start.lesson? position = some lesson) (completable : start.Completable)
    (placed : (lesson.placed placement).Completable start.timetable.slots) : next.Completable := by
  intro place there thereFound
  rw [places.slots]
  by_cases here : place = position
  · subst here
    rw [places.lesson_here found] at thereFound
    obtain rfl := Option.some.inj thereFound
    exact placed
  · rw [places.lesson_elsewhere here] at thereFound
    exact completable place there thereFound

end Director

namespace FirstFit

/-- A construction that can still complete all lessons, from the slots of the timetable. -/
structure Ready (state : FirstFit) : Prop where
  slots : ∀ slot ∈ state.slots, slot ∈ state.director.timetable.slots
  completable : state.director.Completable

theorem Lesson.Placeable.mono {lesson : Lesson} {slots more : List TimeSlot} {placement : Placement}
    (placeable : lesson.Placeable slots placement) (within : ∀ slot ∈ slots, slot ∈ more) :
    lesson.Placeable more placement := by
  obtain ⟨⟨slot, listed, same⟩, room, teacher⟩ := placeable
  exact ⟨⟨slot, within slot listed, same⟩, room, teacher⟩

variable {state after : FirstFit} {position : Nat}

private theorem ready_of_places {placement : Placement} {next : Director} {placed : Nat} {lesson : Lesson}
    (ready : state.Ready) (places : state.director.Places position placement next)
    (found : state.director.lesson? position = some lesson)
    (inRange : (lesson.placed placement).InRange state.director.timetable.slots) :
    Ready ⟨next, state.slots, placed⟩ ∧ next.Settled position ∧
      ∀ place, state.director.Settled place → next.Settled place := by
  have settled := places.settled found inRange
  refine ⟨⟨?_, places.completable found ready.completable inRange.completable⟩, settled, ?_⟩
  · intro slot listed
    change slot ∈ next.timetable.slots
    rw [places.slots]
    exact ready.slots slot listed
  · intro place before
    by_cases here : place = position
    · rw [here]
      exact settled
    · exact places.settled_elsewhere here before

/-- A lesson that was completed is in range, and no other lesson is moved out of its ranges. -/
theorem Completes.settles (completes : Completes position state after) (ready : state.Ready) :
    after.Ready ∧ after.director.Settled position ∧
      ∀ place, state.director.Settled place → after.director.Settled place := by
  cases completes with
  | absent missing =>
      refine ⟨ready, ?_, fun place settled => settled⟩
      intro lesson found
      rw [missing] at found
      cases found
  | @seated lesson found hasSlot settled =>
      refine ⟨ready, ?_, fun place before => before⟩
      intro there thereFound
      obtain rfl := Option.some.inj (found.symm.trans thereFound)
      exact Lesson.in_range_of_settled (ready.completable position lesson found) hasSlot settled
  | @placed lesson placement next found lacksSlot placeable places =>
      have completable := ready.completable position lesson found
      exact ready_of_places ready places found
        (Lesson.in_range_of_placeable completable.teachers
          (Lesson.Placeable.mono placeable ready.slots))
  | @roomed lesson room next found hasSlot lacksRoom candidate places =>
      have completable := ready.completable position lesson found
      exact ready_of_places ready places found
        (Lesson.in_range_of_roomed completable hasSlot candidate)

theorem CompletesAll.settles {positions : List Nat} (completes : CompletesAll positions state after)
    (ready : state.Ready) :
    (∀ place ∈ positions, after.director.Settled place) ∧
      ∀ place, state.director.Settled place → after.director.Settled place := by
  induction completes with
  | nil state => exact ⟨fun place listed => (nomatch listed), fun place settled => settled⟩
  | @cons position rest state between after first others ih =>
      obtain ⟨betweenReady, here, kept⟩ := first.settles ready
      obtain ⟨restSettled, restKept⟩ := ih betweenReady
      refine ⟨?_, fun place settled => restKept place (kept place settled)⟩
      intro place listed
      rcases List.mem_cons.1 listed with rfl | later
      · exact restKept place here
      · exact restSettled place later

theorem mem_construction_slots {slots : List TimeSlot} {slot : TimeSlot} :
    slot ∈ constructionSlots slots ↔ slot ∈ slots :=
  (List.mergeSort_perm _ _).mem_iff

theorem mem_construction_order {lessons : List Lesson} {place : Nat} :
    place ∈ constructionOrder lessons ↔ place < lessons.length := by
  unfold constructionOrder
  rw [((List.mergeSort_perm _ _).map _).mem_iff, List.zipIdx_map_snd, List.mem_range']
  simp

end FirstFit

section AllAtOnce

variable {choice : Choice} {slots : List TimeSlot} {lesson : Lesson} {position : Nat}

/-- The variables of a lesson are its slots with the teachers who may come then. -/
theorem mem_lesson_choices_iff : choice ∈ lessonChoices slots position lesson ↔
    ∃ slot teacher, slots[choice.slot]? = some slot ∧
      lesson.teacherOptions[choice.option]? = some teacher ∧
      (∀ known ∈ teacher, known.isBlockedAt slot = false) ∧
      choice = ⟨position, choice.slot, choice.option, lesson.schoolClass.id, teacher, lesson.pattern⟩ := by
  unfold lessonChoices
  constructor
  · intro listed
    obtain ⟨⟨slot, slotIndex⟩, slotListed, inSlot⟩ := List.mem_flatMap.1 listed
    obtain ⟨⟨teacher, option⟩, optionListed, made⟩ := List.mem_filterMap.1 inSlot
    dsimp only at made
    split at made
    · cases made
    · rename_i free
      obtain rfl := Option.some.inj made
      refine ⟨slot, teacher, List.mem_zipIdx_iff_getElem?.1 slotListed,
        List.mem_zipIdx_iff_getElem?.1 optionListed, ?_, rfl⟩
      simpa [Option.any_eq_true] using free
  · rintro ⟨slot, teacher, slotFound, teacherFound, free, made⟩
    refine List.mem_flatMap.2 ⟨(slot, choice.slot), List.mem_zipIdx_iff_getElem?.2 slotFound, ?_⟩
    refine List.mem_filterMap.2 ⟨(teacher, choice.option), List.mem_zipIdx_iff_getElem?.2 teacherFound, ?_⟩
    have mayCome : (teacher.any fun known => known.isBlockedAt slot) = false := by
      simpa [Option.any_eq_false] using free
    dsimp only
    rw [mayCome]
    exact congrArg some made.symm

theorem mem_lesson_choices (listed : choice ∈ lessonChoices slots position lesson) :
    choice.lesson = position ∧ choice.teacher ∈ lesson.teacherOptions ∧
      ∃ slot, slots[choice.slot]? = some slot := by
  obtain ⟨slot, teacher, slotFound, offered, -, made⟩ := mem_lesson_choices_iff.1 listed
  rw [made]
  exact ⟨rfl, List.mem_of_getElem? offered, slot, slotFound⟩

theorem mem_choices_of_build {timetable : Timetable}
    (listed : choice ∈ (PlacementModel.build timetable).choices) :
    ∃ lesson, timetable.lessons[choice.lesson]? = some lesson ∧
      choice ∈ lessonChoices timetable.slots choice.lesson lesson := by
  have inGroups : ∃ group ∈ timetable.lessons.zipIdx.map fun entry =>
      lessonChoices timetable.slots entry.2 entry.1, choice ∈ group := by
    unfold PlacementModel.choices PlacementModel.build at listed
    dsimp only at listed
    split at listed
    · obtain ⟨group, made, inGroup⟩ := List.mem_flatten.1 listed
      exact ⟨group, (List.takeWhile_subset _) made, inGroup⟩
    · obtain ⟨group, made, inGroup⟩ := List.mem_flatten.1 listed
      exact ⟨group, (List.takeWhile_subset _) made, inGroup⟩
  obtain ⟨group, grouped, inGroup⟩ := inGroups
  obtain ⟨⟨lesson, position⟩, entry, rfl⟩ := List.mem_map.1 grouped
  obtain ⟨rfl, -, -⟩ := mem_lesson_choices inGroup
  exact ⟨lesson, List.mem_zipIdx_iff_getElem?.1 entry, inGroup⟩

end AllAtOnce

namespace Director

variable {director next : Director} {base : Timetable} {weights : Weights}

theorem Completable.apply_choice {choice : Choice} {original : Lesson}
    (completable : director.Completable) (arranges : director.timetable.Arranges base)
    (found : base.lessons[choice.lesson]? = some original)
    (offered : choice.teacher ∈ original.teacherOptions)
    (applied : director.applyChoice choice = .ok next) : next.Completable := by
  rcases apply_choice_ok applied with ⟨slot, slotFound, changed⟩ | ⟨-, rfl⟩
  · rcases change_ok changed with ⟨-, ⟨-, rfl⟩ | ⟨lesson, lessonFound, rfl⟩⟩
    · exact completable
    · obtain ⟨same, sameFound, equal⟩ := arranges.lesson_at lessonFound
      obtain rfl := Option.some.inj (found.symm.trans sameFound)
      have before := completable choice.lesson lesson lessonFound
      have candidates : lesson.candidateTeachers = original.candidateTeachers := by rw [equal]; rfl
      have teachers : original.candidateTeachers ≠ [] := candidates ▸ before.teachers
      obtain ⟨teacher, candidate, chosen⟩ := Lesson.mem_teacher_options teachers offered
      have rooms : ∀ room, lesson.room = some room → room ∈ lesson.candidateRooms := by
        rcases before.progress with ⟨-, lacksRoom⟩ | seated
        · intro room hasRoom
          rw [lacksRoom] at hasRoom
          cases hasRoom
        · exact seated.room
      apply (places_assign director choice.lesson _).completable lessonFound completable
      refine ⟨before.teachers, .inr ⟨⟨slot, List.mem_of_getElem? slotFound, rfl⟩, ?_, rooms⟩⟩
      exact ⟨teacher, candidates ▸ candidate, chosen⟩
  · exact completable

theorem Completable.apply_choices {choices : List Choice} (completable : director.Completable)
    (tracks : director.Tracks base weights)
    (offered : ∀ choice ∈ choices, ∃ original, base.lessons[choice.lesson]? = some original ∧
      choice.teacher ∈ original.teacherOptions)
    (applied : choices.foldlM applyChoice director = .ok next) : next.Completable := by
  induction choices generalizing director with
  | nil =>
      obtain rfl := Except.ok.inj applied
      exact completable
  | cons choice rest ih =>
      rw [List.foldlM_cons] at applied
      obtain ⟨between, first, others⟩ := bind_ok.1 applied
      obtain ⟨original, found, chosen⟩ := offered choice (List.mem_cons_self ..)
      have between := completable.apply_choice tracks.arranges found chosen first
      exact ih between (tracks.apply_choice first)
        (fun other listed => offered other (List.mem_cons_of_mem choice listed)) others

/-- Whatever is taken of a model, it leaves lessons that can be completed. -/
theorem Completable.place_exactly {placer : ExactPlacer} {seed : Option Int} {status : ExactStatus}
    (completable : director.Completable) (tracks : director.Tracks director.timetable weights)
    (placed : director.placeExactlyBy placer seed = .ok (status, next)) : next.Completable := by
  rcases place_exactly_ok placed with ⟨-, rfl⟩ | ⟨-, taken, -, -, applied⟩
  · exact completable
  · apply completable.apply_choices tracks _ applied
    intro choice listed
    obtain ⟨lesson, found, inGroup⟩ := mem_choices_of_build (List.mem_filter.1 listed).1
    exact ⟨lesson, found, (mem_lesson_choices inGroup).2.1⟩

end Director

/-- Construction of lessons that can be completed brings all of them into their ranges. -/
theorem Solver.in_range_of_construct {placer : ExactPlacer} {config : Config} {timetable : Timetable}
    {director : Director} (constructed : construct placer config timetable = .ok director)
    (completable : ∀ lesson ∈ timetable.lessons, lesson.Completable timetable.slots) :
    director.timetable.InRange := by
  obtain ⟨begun, state, chosen, completes, rfl⟩ := construct_ok constructed
  have own := Director.tracks_of_timetable timetable config.weights
  nth_rewrite 2 [← Director.of_timetable_timetable timetable config.weights] at own
  have freshCompletable : (Director.ofTimetable timetable config.weights).Completable := by
    intro position lesson found
    unfold Director.lesson? at found
    rw [Director.of_timetable_timetable] at found ⊢
    exact completable lesson (List.mem_of_getElem? found)
  have begunCompletable : begun.Completable := by
    rcases chosen with rfl | ⟨status, placing⟩
    · exact freshCompletable
    · exact freshCompletable.place_exactly own placing
  have begunTracks : (FirstFit.ofDirector begun).director.Tracks timetable config.weights :=
    tracks_of_begun chosen
  have ready : (FirstFit.ofDirector begun).Ready :=
    ⟨fun slot listed => FirstFit.mem_construction_slots.1 listed, begunCompletable⟩
  -- The order of construction goes through all positions.
  have settled := (completes.settles ready).1
  have sameLength : state.director.timetable.lessons.length = begun.timetable.lessons.length :=
    (completes.tracks begunTracks).arranges.length.trans begunTracks.arranges.length.symm
  intro lesson listed
  obtain ⟨position, found⟩ := List.mem_iff_getElem?.1 listed
  have bound := (List.getElem?_eq_some_iff.1 found).1
  rw [sameLength] at bound
  exact settled position (FirstFit.mem_construction_order.2 bound) lesson found

end SchoolTimetable
