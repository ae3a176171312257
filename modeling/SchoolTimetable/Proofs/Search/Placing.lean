import SchoolTimetable.Proofs.Timetable.Arrangement
import SchoolTimetable.Proofs.Sequencing
import SchoolTimetable.Search.FirstFit

/-!
How a lesson is placed. Trying placements one after the other leaves no trace but the last of them, so
a lesson ends up with one of the placements that were tried, and everything else stays as it was.
-/

namespace SchoolTimetable

theorem placed_at_placed_at (lessons : List Lesson) (position : Nat) (first second : Placement) :
    Director.placedAt (Director.placedAt lessons position first) position second =
      Director.placedAt lessons position second := by
  unfold Director.placedAt
  rw [List.modify_modify_eq]
  rfl

namespace Director

inductive Tried (position : Nat) (start : Director) : Director → Prop
  | start : Tried position start start
  | assign {director : Director} (tried : Tried position start director) (placement : Placement) :
      Tried position start (director.assign position placement)

/-- A director after a lesson was given a placement, with any number of others tried before. -/
def Places (start : Director) (position : Nat) (placement : Placement) (next : Director) : Prop :=
  ∃ director, Tried position start director ∧ next = director.assign position placement

section Placing

variable {start director next : Director} {position : Nat} {placement : Placement}
  {base : Timetable} {weights : Weights}

theorem Tried.tracks (tried : Tried position start director) (tracks : start.Tracks base weights) :
    director.Tracks base weights := by
  induction tried with
  | start => exact tracks
  | assign _ placement ih => exact ih.assign position placement

theorem Tried.assign_timetable (tried : Tried position start director) (placement : Placement) :
    (director.assign position placement).timetable = (start.assign position placement).timetable := by
  induction tried generalizing placement with
  | start => rfl
  | assign _ before ih =>
      rw [assign_lessons, ih before, assign_lessons, assign_lessons]
      simp only [placed_at_placed_at]

theorem Tried.places (tried : Tried position start director) (placement : Placement) :
    start.Places position placement (director.assign position placement) :=
  ⟨director, tried, rfl⟩

theorem places_assign (director : Director) (position : Nat) (placement : Placement) :
    director.Places position placement (director.assign position placement) :=
  Tried.start.places placement

theorem Places.tracks (places : start.Places position placement next)
    (tracks : start.Tracks base weights) : next.Tracks base weights := by
  obtain ⟨director, tried, rfl⟩ := places
  exact (tried.tracks tracks).assign position placement

theorem Places.timetable (places : start.Places position placement next) :
    next.timetable = { start.timetable with
      lessons := placedAt start.timetable.lessons position placement } := by
  obtain ⟨director, tried, rfl⟩ := places
  rw [tried.assign_timetable placement, assign_lessons]

end Placing

end Director

/-- A trial from a director that can end with allowed placements only. -/
def Trial.Within (position : Nat) (start : Director) (allowed : Placement → Prop) : Trial → Prop
  | .fits next => ∃ placement, allowed placement ∧ start.Places position placement next
  | .tried director best =>
      Director.Tried position start director ∧ ∀ kept ∈ best, allowed kept.2

def Trial.settled (position : Nat) : Trial → Director
  | .fits reached => reached
  | .tried reached none => reached
  | .tried reached (some (_, placement)) => reached.assign position placement

section Trying

variable {position : Nat} {hard : Int} {start : Director} {allowed : Placement → Prop}

theorem Trial.Within.places {trial : Trial} (within : trial.Within position start allowed)
    (remembers : ∀ reached, trial ≠ .tried reached none) :
    ∃ placement, allowed placement ∧ start.Places position placement (trial.settled position) := by
  match trial, within with
  | .fits next, within => exact within
  | .tried director none, _ => exact absurd rfl (remembers director)
  | .tried director (some kept), ⟨before, all⟩ =>
      exact ⟨kept.2, all kept rfl, before.places kept.2⟩

theorem try_placements_within {director : Director} {best : BestTrial} {placements : List Placement}
    (tried : Director.Tried position start director) (kept : ∀ trial ∈ best, allowed trial.2)
    (all : ∀ placement ∈ placements, allowed placement) :
    (tryPlacements position hard director best placements).Within position start allowed := by
  induction placements generalizing director best with
  | nil => exact ⟨tried, kept⟩
  | cons placement rest ih =>
      have first := all placement (List.mem_cons_self ..)
      have others := fun other member => all other (List.mem_cons_of_mem placement member)
      unfold tryPlacements
      dsimp only
      split
      · exact ⟨placement, first, tried.places placement⟩
      · apply ih (tried.assign placement) _ others
        split
        · intro trial same
          obtain rfl := Option.some.inj same
          exact first
        · exact kept

theorem try_placements_remembers {director reached : Director} {best : BestTrial}
    {placements : List Placement}
    (ended : tryPlacements position hard director best placements = .tried reached none) :
    best = none ∧ placements = [] := by
  induction placements generalizing director best with
  | nil =>
      injection ended with _ forgotten
      exact ⟨forgotten, rfl⟩
  | cons placement rest ih =>
      unfold tryPlacements at ended
      dsimp only at ended
      split at ended
      · cases ended
      -- Whatever is remembered is only ever replaced: with nothing remembered any trial is.
      · have forgotten := (ih ended).1
        cases best with
        | none => simp [BestTrial.isBeatenBy] at forgotten
        | some trial =>
            split at forgotten
            · cases forgotten
            · cases forgotten

theorem try_options_within {director : Director} {best : BestTrial} {rooms : List (Option Room)}
    {options : List (TimeSlot × Option Teacher)}
    (tried : Director.Tried position start director) (kept : ∀ trial ∈ best, allowed trial.2)
    (all : ∀ option ∈ options, ∀ room ∈ rooms, allowed ⟨some option.1, room, option.2⟩) :
    (tryOptions position hard rooms director best options).Within position start allowed := by
  induction options generalizing director best with
  | nil => exact ⟨tried, kept⟩
  | cons option rest ih =>
      obtain ⟨slot, teacher⟩ := option
      have others := fun other member => all other (List.mem_cons_of_mem (slot, teacher) member)
      have bounded := tried.assign ⟨some slot, none, teacher⟩
      have inRooms : ∀ placement ∈ rooms.map fun room => (⟨some slot, room, teacher⟩ : Placement),
          allowed placement := by
        intro placement member
        obtain ⟨room, listed, rfl⟩ := List.mem_map.1 member
        exact all (slot, teacher) (List.mem_cons_self ..) room listed
      unfold tryOptions
      dsimp only
      split
      · have within : (tryPlacements position hard _ best _).Within position start allowed :=
          try_placements_within bounded kept inRooms
        split
        · rename_i next ended
          rw [ended] at within
          exact within
        · rename_i next better ended
          rw [ended] at within
          exact ih within.1 within.2 others
      · exact ih bounded kept others

/-- As long as no placement is remembered every pair is tried, so one is remembered in the end. -/
theorem try_options_remembers {director reached : Director} {best : BestTrial}
    {rooms : List (Option Room)} {options : List (TimeSlot × Option Teacher)}
    (ended : tryOptions position hard rooms director best options = .tried reached none) :
    best = none ∧ (rooms = [] ∨ options = []) := by
  induction options generalizing director best with
  | nil =>
      injection ended with _ forgotten
      exact ⟨forgotten, .inr rfl⟩
  | cons option rest ih =>
      obtain ⟨slot, teacher⟩ := option
      unfold tryOptions at ended
      dsimp only at ended
      split at ended
      · split at ended
        · cases ended
        · rename_i next better roomsEnded
          obtain ⟨rfl, -⟩ := ih ended
          obtain ⟨forgotten, noRooms⟩ := try_placements_remembers roomsEnded
          exact ⟨forgotten, .inl (List.map_eq_nil_iff.1 noRooms)⟩
      · rename_i notBeaten
        obtain ⟨rfl, -⟩ := ih ended
        exact absurd rfl notBeaten

end Trying

structure Lesson.Placeable (lesson : Lesson) (slots : List TimeSlot) (placement : Placement) : Prop where
  slot : ∃ slot ∈ slots, placement.slot = some slot
  room : placement.room ∈ lesson.roomOptions
  teacher : placement.teacher ∈ lesson.teacherOptions

theorem Lesson.room_options_ne_nil (lesson : Lesson) : lesson.roomOptions ≠ [] := by
  unfold roomOptions
  split
  · simp
  · rename_i someRooms
    simpa using someRooms

theorem Lesson.teacher_options_ne_nil (lesson : Lesson) : lesson.teacherOptions ≠ [] := by
  unfold teacherOptions
  split
  · simp
  · rename_i someTeachers
    simpa using someTeachers

namespace FirstFit

/-- All that completing a lesson can do to a construction: nothing where there is no lesson or
nothing to complete, otherwise the lesson is placed or given a room. -/
inductive Completes (position : Nat) (state : FirstFit) : FirstFit → Prop
  | absent (missing : state.director.lesson? position = none) : Completes position state state
  | seated {lesson : Lesson} (found : state.director.lesson? position = some lesson)
      (hasSlot : lesson.slot ≠ none) (settled : lesson.room ≠ none ∨ lesson.candidateRooms = []) :
      Completes position state state
  | placed {lesson : Lesson} {placement : Placement} {next : Director}
      (found : state.director.lesson? position = some lesson) (lacksSlot : lesson.slot = none)
      (placeable : lesson.Placeable state.slots placement)
      (places : state.director.Places position placement next) :
      Completes position state { state with director := next, placed := state.placed + 1 }
  | roomed {lesson : Lesson} {room : Room} {next : Director}
      (found : state.director.lesson? position = some lesson) (hasSlot : lesson.slot ≠ none)
      (lacksRoom : lesson.room = none) (candidate : room ∈ lesson.candidateRooms)
      (places : state.director.Places position { lesson.placement with room := some room } next) :
      Completes position state { state with director := next }

def placeTrial (position : Nat) (lesson : Lesson) (state : FirstFit) : Trial :=
  tryOptions position state.director.score.hard lesson.roomOptions state.director none
    (state.slots.flatMap fun slot => lesson.teacherOptions.map fun teacher => (slot, teacher))

private theorem place_trial_within (position : Nat) (lesson : Lesson) (state : FirstFit) :
    (placeTrial position lesson state).Within position state.director
      (lesson.Placeable state.slots) := by
  apply try_options_within .start
  · intro trial kept
    cases kept
  · intro option listed room allowed
    obtain ⟨slot, member, inSlot⟩ := List.mem_flatMap.1 listed
    obtain ⟨teacher, offered, rfl⟩ := List.mem_map.1 inSlot
    exact ⟨⟨slot, member, rfl⟩, allowed, offered⟩

private theorem place_trial_remembers {position : Nat} {lesson : Lesson} {state : FirstFit}
    (someSlots : state.slots ≠ []) (reached : Director) :
    placeTrial position lesson state ≠ .tried reached none := by
  intro ended
  rcases try_options_remembers ended with ⟨-, noRooms | noOptions⟩
  · exact lesson.room_options_ne_nil noRooms
  · obtain ⟨slot, others, same⟩ := List.exists_cons_of_ne_nil someSlots
    rw [same, List.flatMap_cons] at noOptions
    have none := (List.append_eq_nil_iff.1 noOptions).1
    exact lesson.teacher_options_ne_nil (List.map_eq_nil_iff.1 none)

/-- A lesson that is placed gets one of the placements that are tried: as soon as there is a slot
there is one to try. -/
theorem place_ok {position : Nat} {state after : FirstFit} {score : Score} {lesson : Lesson}
    (found : state.director.lesson? position = some lesson)
    (done : (place position).run state = .ok score after) :
    ∃ placement next, lesson.Placeable state.slots placement ∧
      state.director.Places position placement next ∧
      after = { state with director := next, placed := state.placed + 1 } := by
  obtain ⟨_, _, got, rest⟩ := run_bind_ok.1 done
  obtain ⟨rfl, rfl⟩ := EStateM.Result.ok.inj got
  simp only [found] at rest
  split at rest
  · obtain ⟨_, _, refused, -⟩ := run_bind_ok.1 rest
    exact absurd refused run_throw_ne_ok
  rename_i someSlots
  split at rest
  · obtain ⟨_, _, refused, -⟩ := run_bind_ok.1 rest
    exact absurd refused run_throw_ne_ok
  obtain ⟨-, rfl⟩ := EStateM.Result.ok.inj rest
  obtain ⟨placement, placeable, places⟩ := (place_trial_within position lesson state).places
    (place_trial_remembers (by simpa using someSlots))
  exact ⟨placement, _, placeable, places, rfl⟩

def inRoom (lesson : Lesson) (room : Option Room) : Placement :=
  ⟨lesson.slot, room, lesson.teacher⟩

def roomTrial (position : Nat) (lesson : Lesson) (state : FirstFit) : Trial :=
  let without := state.director.assign position (inRoom lesson none)
  tryPlacements position without.score.hard without none
    (lesson.candidateRooms.map fun room => inRoom lesson (some room))

private theorem room_trial_within (position : Nat) (lesson : Lesson) (state : FirstFit) :
    (roomTrial position lesson state).Within position state.director fun placement =>
      ∃ room ∈ lesson.candidateRooms, placement = inRoom lesson (some room) := by
  apply try_placements_within (Director.Tried.start.assign _)
  · intro trial kept
    cases kept
  · intro placement member
    obtain ⟨room, candidate, same⟩ := List.mem_map.1 member
    exact ⟨room, candidate, same.symm⟩

theorem place_room_ok {position : Nat} {state after : FirstFit} {score : Score} {lesson : Lesson}
    (found : state.director.lesson? position = some lesson)
    (done : (placeRoom position).run state = .ok score after) :
    ∃ room next, room ∈ lesson.candidateRooms ∧
      state.director.Places position { lesson.placement with room := some room } next ∧
      after = { state with director := next } := by
  obtain ⟨_, _, got, rest⟩ := run_bind_ok.1 done
  obtain ⟨rfl, rfl⟩ := EStateM.Result.ok.inj got
  simp only [found] at rest
  split at rest
  · obtain ⟨_, _, refused, -⟩ := run_bind_ok.1 rest
    exact absurd refused run_throw_ne_ok
  obtain ⟨_, without, written, rest⟩ := run_bind_ok.1 rest
  obtain ⟨-, rfl⟩ := EStateM.Result.ok.inj written
  have settles : (∀ reached, roomTrial position lesson state ≠ .tried reached none) ∧
      after = { state with director := (roomTrial position lesson state).settled position } := by
    split at rest
    · rename_i next ended
      change roomTrial position lesson state = _ at ended
      obtain ⟨-, rfl⟩ := EStateM.Result.ok.inj rest
      rw [ended]
      exact ⟨fun _ same => (nomatch same), rfl⟩
    · exact absurd rest run_throw_ne_ok
    · rename_i reached kept placement ended
      change roomTrial position lesson state = _ at ended
      obtain ⟨-, rfl⟩ := EStateM.Result.ok.inj rest
      rw [ended]
      exact ⟨fun _ same => (nomatch same), rfl⟩
  obtain ⟨placement, ⟨room, candidate, rfl⟩, places⟩ :=
    (room_trial_within position lesson state).places settles.1
  exact ⟨room, _, candidate, places, settles.2⟩

theorem completes_of_complete {position : Nat} {state after : FirstFit}
    (done : (complete position).run state = .ok () after) : Completes position state after := by
  obtain ⟨_, _, got, rest⟩ := run_bind_ok.1 done
  obtain ⟨rfl, rfl⟩ := EStateM.Result.ok.inj got
  split at rest
  · rename_i missing
    obtain ⟨-, rfl⟩ := EStateM.Result.ok.inj rest
    exact .absent missing
  · rename_i lesson found
    split at rest
    · rename_i lacksSlot
      obtain ⟨score, between, placing, rest⟩ := run_bind_ok.1 rest
      obtain ⟨-, rfl⟩ := EStateM.Result.ok.inj rest
      obtain ⟨placement, next, placeable, places, rfl⟩ := place_ok found placing
      exact .placed found (Option.isNone_iff_eq_none.1 lacksSlot) placeable places
    · rename_i hasSlot
      split at rest
      · rename_i lacksRoom
        rw [Bool.and_eq_true] at lacksRoom
        obtain ⟨score, between, placing, rest⟩ := run_bind_ok.1 rest
        obtain ⟨-, rfl⟩ := EStateM.Result.ok.inj rest
        obtain ⟨room, next, candidate, places, rfl⟩ := place_room_ok found placing
        exact .roomed found (by simpa using hasSlot) (Option.isNone_iff_eq_none.1 lacksRoom.1)
          candidate places
      · rename_i settled
        obtain ⟨-, rfl⟩ := EStateM.Result.ok.inj rest
        have complete : lesson.room ≠ none ∨ lesson.candidateRooms = [] := by
          rw [Bool.and_eq_true, not_and_or] at settled
          exact settled.imp (by simp) (by simp)
        exact .seated found (by simpa using hasSlot) complete

inductive CompletesAll : List Nat → FirstFit → FirstFit → Prop
  | nil (state : FirstFit) : CompletesAll [] state state
  | cons {position : Nat} {rest : List Nat} {state between after : FirstFit}
      (first : Completes position state between) (others : CompletesAll rest between after) :
      CompletesAll (position :: rest) state after

theorem completes_all_of_complete_all {positions : List Nat} {state after : FirstFit}
    (done : (completeAll positions).run state = .ok () after) : CompletesAll positions state after := by
  induction positions generalizing state with
  | nil =>
      obtain ⟨-, rfl⟩ := EStateM.Result.ok.inj done
      exact .nil state
  | cons position rest ih =>
      obtain ⟨_, between, first, others⟩ := run_bind_ok.1 done
      exact .cons (completes_of_complete first) (ih others)

/-- A construction that succeeds completes all lessons, one after the other, and returns the score in the end. -/
theorem complete_all_of_run {state after : FirstFit} {score : Score} (done : run.run state = .ok score after) :
    (completeAll (constructionOrder state.director.timetable.lessons)).run state = .ok () after ∧
      score = after.director.score := by
  obtain ⟨_, _, got, rest⟩ := run_bind_ok.1 done
  obtain ⟨rfl, rfl⟩ := EStateM.Result.ok.inj got
  obtain ⟨_, between, completed, rest⟩ := run_bind_ok.1 rest
  obtain ⟨_, _, read, rest⟩ := run_bind_ok.1 rest
  obtain ⟨rfl, rfl⟩ := EStateM.Result.ok.inj read
  obtain ⟨rfl, rfl⟩ := EStateM.Result.ok.inj rest
  exact ⟨completed, rfl⟩

/-- A construction that succeeds has completed all lessons in the order of construction. -/
theorem run_ok {state after : FirstFit} {score : Score} (done : run.run state = .ok score after) :
    CompletesAll (constructionOrder state.director.timetable.lessons) state after ∧
      score = after.director.score :=
  (complete_all_of_run done).imp_left completes_all_of_complete_all

section Tracking

variable {base : Timetable} {weights : Weights} {state after : FirstFit}

theorem Completes.tracks {position : Nat} (completes : Completes position state after)
    (tracks : state.director.Tracks base weights) : after.director.Tracks base weights := by
  cases completes with
  | absent => exact tracks
  | seated => exact tracks
  | placed _ _ _ places => exact places.tracks tracks
  | roomed _ _ _ _ places => exact places.tracks tracks

theorem CompletesAll.tracks {positions : List Nat} (completes : CompletesAll positions state after)
    (tracks : state.director.Tracks base weights) : after.director.Tracks base weights := by
  induction completes with
  | nil => exact tracks
  | cons first _ ih => exact ih (first.tracks tracks)

end Tracking

end FirstFit

end SchoolTimetable
