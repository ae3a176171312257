import SchoolTimetable.Proofs.Search.AllPlaced
import SchoolTimetable.Proofs.Search.Choosing
import SchoolTimetable.Proofs.Search.Fallback
import SchoolTimetable.Proofs.Solution.Outcomes

/-!
A first fit after all lessons were placed at once. It finds every lesson in a slot, so all that it does is
to give rooms to lessons that may have some. Teachers and classes keep their times, and the hard points
that construction loses are those over rooms.
-/

namespace SchoolTimetable

namespace Lesson

def roomless (lesson : Lesson) : Lesson := lesson.placed { lesson.placement with room := none }

/-- The lesson is the same but perhaps for its room, and quite the same where it has no candidates. -/
structure OnlyRoomChanged (before after : Lesson) : Prop where
  rest : after.roomless = before.roomless
  kept : before.candidateRooms = [] → after = before

variable {before between after : Lesson}

theorem OnlyRoomChanged.refl (lesson : Lesson) : lesson.OnlyRoomChanged lesson := ⟨rfl, fun _ => rfl⟩

theorem OnlyRoomChanged.trans (first : before.OnlyRoomChanged between)
    (second : between.OnlyRoomChanged after) : before.OnlyRoomChanged after := by
  have candidates : between.roomless.candidateRooms = before.roomless.candidateRooms := by
    rw [first.rest]
  constructor
  · exact second.rest.trans first.rest
  · intro noRooms
    rw [second.kept (candidates.trans noRooms), first.kept noRooms]

end Lesson

section Lists

variable {lessons others : List Lesson}

theorem forall₂_modify {relation : Lesson → Lesson → Prop} (reflexive : ∀ lesson, relation lesson lesson)
    (position : Nat) (change : Lesson → Lesson)
    (changed : ∀ lesson, lessons[position]? = some lesson → relation lesson (change lesson)) :
    List.Forall₂ relation lessons (lessons.modify position change) := by
  induction lessons generalizing position with
  | nil =>
      rw [List.modify_nil]
      exact .nil
  | cons lesson rest ih =>
      cases position with
      | zero =>
          rw [List.modify_zero_cons]
          exact .cons (changed lesson rfl) (List.forall₂_same.2 fun other _ => reflexive other)
      | succ position =>
          rw [List.modify_succ_cons]
          exact .cons (reflexive lesson) (ih position changed)

theorem map_roomless_eq (same : List.Forall₂ Lesson.OnlyRoomChanged lessons others) :
    others.map Lesson.roomless = lessons.map Lesson.roomless := by
  induction same with
  | nil => rfl
  | cons first rest ih => rw [List.map_cons, List.map_cons, first.rest, ih]

theorem only_room_changed_trans {more : List Lesson}
    (first : List.Forall₂ Lesson.OnlyRoomChanged lessons others)
    (second : List.Forall₂ Lesson.OnlyRoomChanged others more) :
    List.Forall₂ Lesson.OnlyRoomChanged lessons more := by
  induction first generalizing more with
  | nil =>
      cases second
      exact .nil
  | cons head rest ih =>
      cases second with
      | cons next others => exact .cons (head.trans next) (ih others)

theorem staffed_roomless_iff (weights : Weights) (lessons : List Lesson) :
    Staffed weights (lessons.map Lesson.roomless) ↔ Staffed weights lessons := by
  have away : (∀ lesson ∈ lessons.map Lesson.roomless,
      .teacherAvailability ∉ (lessonMatches weights lesson).map (·.1)) ↔
      ∀ lesson ∈ lessons, .teacherAvailability ∉ (lessonMatches weights lesson).map (·.1) := by
    simp only [List.forall_mem_map, availability_matches_iff]
    rfl
  have apart : ((lessons.map Lesson.roomless).Pairwise fun first second =>
      .teacherConflict ∉ (pairMatches weights first second).map (·.1) ∧
        .classConflict ∉ (pairMatches weights first second).map (·.1)) ↔
      lessons.Pairwise fun first second =>
        .teacherConflict ∉ (pairMatches weights first second).map (·.1) ∧
          .classConflict ∉ (pairMatches weights first second).map (·.1) := by
    simp only [List.pairwise_map, conflict_matches_iff]
    rfl
  have qualified : (∀ lesson ∈ lessons.map Lesson.roomless, ¬ lesson.TeacherUnqualified) ↔
      ∀ lesson ∈ lessons, ¬ lesson.TeacherUnqualified := List.forall_mem_map
  constructor
  · intro staffed
    exact ⟨⟨away.1 staffed.available, apart.1 staffed.apart⟩, qualified.1 staffed.qualified⟩
  · intro staffed
    exact ⟨⟨away.2 staffed.available, apart.2 staffed.apart⟩, qualified.2 staffed.qualified⟩

end Lists

/-- A timetable that differs from another in nothing but rooms of lessons with candidates. -/
structure Timetable.OnlyRoomsChanged (before after : Timetable) : Prop where
  facts : after = { before with lessons := after.lessons }
  lessons : List.Forall₂ Lesson.OnlyRoomChanged before.lessons after.lessons

namespace Timetable.OnlyRoomsChanged

variable {before between after : Timetable}

theorem refl (timetable : Timetable) : timetable.OnlyRoomsChanged timetable :=
  ⟨rfl, List.forall₂_same.2 fun lesson _ => .refl lesson⟩

theorem trans (first : before.OnlyRoomsChanged between) (second : between.OnlyRoomsChanged after) :
    before.OnlyRoomsChanged after := by
  constructor
  · rw [second.facts, first.facts]
  · exact only_room_changed_trans first.lessons second.lessons

theorem seated (changed : before.OnlyRoomsChanged after)
    (seated : ∀ lesson ∈ before.lessons, lesson.slot ≠ none) :
    ∀ lesson ∈ after.lessons, lesson.slot ≠ none := by
  have same := map_roomless_eq changed.lessons
  intro lesson listed
  have member : lesson.roomless ∈ before.lessons.map Lesson.roomless := by
    rw [← same]
    exact List.mem_map_of_mem listed
  rcases List.mem_map.1 member with ⟨original, originalListed, equal⟩
  have slots : original.roomless.slot = lesson.roomless.slot := by rw [equal]
  change lesson.roomless.slot ≠ none
  rw [← slots]
  exact seated original originalListed

end Timetable.OnlyRoomsChanged

namespace FirstFit

variable {state after : FirstFit} {position : Nat} {positions : List Nat}

/-- Where every lesson has a slot, a lesson is completed by its room or not at all. -/
theorem Completes.only_rooms_changed (completes : Completes position state after)
    (seated : ∀ lesson ∈ state.director.timetable.lessons, lesson.slot ≠ none) :
    state.director.timetable.OnlyRoomsChanged after.director.timetable := by
  cases completes with
  | absent => exact .refl _
  | seated => exact .refl _
  | placed found lacksSlot => exact absurd lacksSlot (seated _ (List.mem_of_getElem? found))
  | @roomed lesson room next found hasSlot lacksRoom candidate places =>
      have written := places.timetable
      refine ⟨?_, ?_⟩
      · dsimp only
        rw [written]
      · dsimp only
        rw [written]
        apply forall₂_modify Lesson.OnlyRoomChanged.refl
        intro original there
        have same : original = lesson := Option.some.inj (there.symm.trans found)
        rw [same]
        constructor
        · rfl
        · intro noRooms
          rw [noRooms] at candidate
          cases candidate

theorem CompletesAll.only_rooms_changed (completes : CompletesAll positions state after)
    (seated : ∀ lesson ∈ state.director.timetable.lessons, lesson.slot ≠ none) :
    state.director.timetable.OnlyRoomsChanged after.director.timetable := by
  induction completes with
  | nil => exact .refl _
  | cons first others ih =>
      have changed := first.only_rooms_changed seated
      exact changed.trans (ih (changed.seated seated))

end FirstFit

namespace Solver

variable {problem : Problem} {config : Config} {timetable : Timetable}
  {warnings : List WorkloadWarning} {placer : ExactPlacer} {status : ExactStatus} {next : Director}

theorem construct_of_placed {score : Score} {state : FirstFit}
    (placed : (Director.ofTimetable timetable config.weights).placeExactlyBy placer config.seed =
      .ok (status, next))
    (completed : FirstFit.run.run (FirstFit.ofDirector next) = .ok score state) :
    construct placer { config with construction := .exact } timetable = .ok state.director := by
  simp only [construct, placed, bind, Except.bind, pure, Except.pure, completed]

/-- A first fit of lessons that are all staffed and in their slots finds rooms for them, and loses no hard
points but over rooms. -/
theorem first_fit_of_staffed {weights : Weights} (working : timetable.isFinal = false)
    (slots : timetable.HasSlots) (tracks : next.Tracks timetable weights)
    (staffed : Staffed weights next.timetable.lessons)
    (seated : ∀ lesson ∈ next.timetable.lessons, lesson.slot ≠ none) :
    ∃ score state, FirstFit.run.run (FirstFit.ofDirector next) = .ok score state ∧
      next.timetable.OnlyRoomsChanged state.director.timetable ∧ state.director.score = score ∧
      score.hard = -(((countPairs state.director.timetable.lessons fun first second =>
          first.SharesSlot second ∧ first.SharesRoom second) +
        countLessons state.director.timetable.lessons Lesson.RoomTooSmall : Nat) : Int) := by
  have arranges := tracks.arranges
  rcases first_fit_succeeds (arranges.isFinal.trans working) (arranges.hasSlots slots) with
    ⟨score, state, ran⟩
  rcases FirstFit.run_ok ran with ⟨completes, scored⟩
  have changed := completes.only_rooms_changed seated
  have after : state.director.Tracks timetable weights := completes.tracks tracks
  -- Staffing is the same with all rooms left out, and without rooms nothing has changed.
  have stillStaffed : Staffed weights state.director.timetable.lessons := by
    rw [← staffed_roomless_iff, map_roomless_eq changed.lessons, staffed_roomless_iff]
    exact staffed
  refine ⟨score, state, ran, changed, scored.symm, ?_⟩
  rw [scored, after.score_eq, after.arranges.lessons_with_snapshot]
  exact stillStaffed.hard

/-- Placing all lessons at once and a first fit after it go together. If nothing can be placed at once,
nothing has changed, and the solve ends as one that starts with a first fit. If a solution was found, every
lesson has a slot and a teacher and no hard point is lost; the first fit then changes nothing but rooms of
lessons with candidates, so construction loses one hard point for each two lessons in one room and for each
room that is too small. -/
theorem exact_construction_composes {document : Json} (accepted : Problem.read document = .ok problem)
    (assembled : problem.assemble config = .ok (timetable, warnings))
    (sound : ∀ taken, placer (PlacementModel.build timetable) = some taken →
      (PlacementModel.build timetable).Solves taken)
    (placed : (Director.ofTimetable timetable config.weights).placeExactlyBy placer config.seed =
      .ok (status, next)) :
    let exactly := { config with construction := .exact }
    let greedily := { config with construction := .firstFit }
    (status ≠ .optimal →
      next = Director.ofTimetable timetable config.weights ∧
      (config.limits.seconds = none → ∀ {Source : Type} [RandomSource Source] (clock other : Clock)
        (source : Source),
        (∀ history : List Happening, Alike
          ((ofTimetableWith placer timetable exactly clock source).after history)
          ((ofTimetableWith placer timetable greedily other source).after history)) ∧
        EndAlike (solve.run (ofTimetableWith placer timetable exactly clock source))
          (solve.run (ofTimetableWith placer timetable greedily other source)))) ∧
    (status = .optimal →
      (∀ lesson ∈ next.timetable.lessons, lesson.slot ≠ none ∧ lesson.teacher ≠ none) ∧
      next.score.hard = 0 ∧
      ∃ score state, FirstFit.run.run (FirstFit.ofDirector next) = .ok score state ∧
        next.timetable.OnlyRoomsChanged state.director.timetable ∧
        construct placer exactly timetable = .ok state.director ∧ state.director.score = score ∧
        score.hard = -(((countPairs state.director.timetable.lessons fun first second =>
            first.SharesSlot second ∧ first.SharesRoom second) +
          countLessons state.director.timetable.lessons Lesson.RoomTooSmall : Nat) : Int)) := by
  intro exactly greedily
  have valid := Problem.valid_of_read accepted
  constructor
  · intro unplaced
    rcases Director.place_exactly_ok placed with ⟨-, same⟩ | ⟨optimal, -⟩
    · refine ⟨same, ?_⟩
      intro untimed Source _ clock other source
      have abreast := abreast_of_unplaced placed unplaced untimed clock other source
      exact ⟨fun history => (abreast.after history).toAlike, abreast.solves rfl⟩
    · exact absurd optimal unplaced
  · intro optimal
    rw [optimal] at placed
    have distinct : (timetable.slots.map (·.id)).Nodup := by
      rw [(Problem.assemble_ok assembled).1]
      exact Problem.build_slots_nodup valid
    rcases Director.arranged_of_optimal distinct sound placed with ⟨selection, keeps, arranged⟩
    have staffed := Selection.staffed_of_assembled assembled keeps
    rw [← arranged] at staffed
    have tracks := (Director.tracks_of_timetable timetable config.weights).place_exactly placed
    have each : ∀ lesson ∈ next.timetable.lessons,
        lesson.slot ≠ none ∧ lesson.teacher ≠ none ∧ lesson.room = none := by
      rw [arranged]
      intro lesson listed
      have selected := Selection.assembled_of_mem_arranged assembled listed
      exact ⟨selected.1, selected.2.1, selected.2.2.1⟩
    have working := Problem.working_of_assembled assembled
    have slots := Problem.slots_of_assembled valid assembled
    rcases first_fit_of_staffed working slots tracks staffed fun lesson listed => (each lesson listed).1
      with ⟨score, state, ran, changed, scored, hard⟩
    refine ⟨?_, ?_, score, state, ran, changed, construct_of_placed placed ran, scored, hard⟩
    · intro lesson listed
      exact ⟨(each lesson listed).1, (each lesson listed).2.1⟩
    · rw [tracks.score_eq, tracks.arranges.lessons_with_snapshot]
      exact staffed.hard_of_no_rooms fun lesson listed => (each lesson listed).2.2

def givesUp : ExactPlacer := fun _ => none

set_option maxRecDepth 10000 in
theorem two_rooms_answered : (PlacementModel.build twoRoomsTimetable).complete = true ∧
    (PlacementModel.placer (PlacementModel.build twoRoomsTimetable)).isSome = true := by decide +kernel

theorem two_rooms_compose : ∃ warnings next,
    Problem.read twoRoomsDocument = .ok twoRooms ∧
      twoRooms.assemble boundless = .ok (twoRoomsTimetable, warnings) ∧
      (Director.ofTimetable twoRoomsTimetable boundless.weights).placeExactlyBy PlacementModel.placer
        boundless.seed = .ok (.optimal, next) ∧
      next.score.hard = 0 ∧
      EndAlike
        (solve.run (ofTimetableWith givesUp twoRoomsTimetable
          { boundless with construction := .exact } .still bothRooms))
        (solve.run (ofTimetableWith givesUp twoRoomsTimetable
          { boundless with construction := .firstFit } .still bothRooms)) := by
  rcases two_rooms_assemble with ⟨warnings, assembled⟩
  rcases two_rooms_answered with ⟨complete, answers⟩
  rcases Option.isSome_iff_exists.1 answers with ⟨taken, answered⟩
  have fresh := Director.of_timetable_timetable twoRoomsTimetable boundless.weights
  rw [← fresh] at complete answered
  have working := Problem.working_of_assembled assembled
  rw [← fresh] at working
  rcases Director.place_exactly_of_answer PlacementModel.placer boundless.seed complete rfl working
    answered with ⟨next, placed⟩
  have unplaced := Director.place_exactly_of_none givesUp boundless.seed complete rfl rfl
  have composes := exact_construction_composes two_rooms_read assembled
    (fun _ answered => PlacementModel.solves_of_placer answered) placed
  have neverAnswers : ∀ taken, givesUp (PlacementModel.build twoRoomsTimetable) = some taken →
      (PlacementModel.build twoRoomsTimetable).Solves taken := by
    intro taken answered
    cases answered
  have fallsBack := exact_construction_composes two_rooms_read assembled neverAnswers unplaced
  have ends := (fallsBack.1 (by decide)).2 rfl .still .still bothRooms
  exact ⟨warnings, next, two_rooms_read, assembled, placed, (composes.2 rfl).2.1, ends.2⟩

end Solver

end SchoolTimetable
