import SchoolTimetable.Proofs.Problem.Sources
import SchoolTimetable.Proofs.Search.ConstructionOrder
import SchoolTimetable.Proofs.Search.FirstFitRuns

/-!
Construction does not depend on the order of the lists. Two constructions whose lessons are rearranged come to the
same lesson at each step, try the same placements of it with the same scores, and so choose the same one.
-/

namespace SchoolTimetable

section Choices

variable {Member : Type} (score : Member → Score)

def firstBest? (members : List Member) : Option Member :=
  members.find? fun member => members.all fun other => score other ≤ score member

def firstChoice? (hard : Int) (members : List Member) : Option Member :=
  (members.find? fun member => decide (hard ≤ (score member).hard)) <|> firstBest? score members

variable {score} {members : List Member} {first second : Member}

theorem FirstBest.found (best : FirstBest score members first) : firstBest? score members = some first := by
  obtain ⟨before, after, split, below, atMost⟩ := best
  have greatest : (members.all fun other => score other ≤ score first) = true := by
    rw [List.all_eq_true]
    intro other listed
    exact decide_eq_true (FirstBest.score_le ⟨before, after, split, below, atMost⟩ listed)
  refine List.find?_eq_some_iff_append.2 ⟨greatest, before, after, split, fun member earlier => ?_⟩
  -- An earlier member is below the first of the best.
  have beaten : ¬ score first ≤ score member := not_le.2 (below member earlier)
  have listed : first ∈ members := by
    rw [split]
    simp
  rw [Bool.not_eq_true', List.all_eq_false]
  exact ⟨first, listed, by simpa using beaten⟩

theorem FirstChoice.found {hard : Int} (choice : FirstChoice score hard members first) :
    firstChoice? score hard members = some first := by
  unfold firstChoice?
  cases choice with
  | keeps split kept lost =>
      have found : (members.find? fun member => decide (hard ≤ (score member).hard)) = some first := by
        refine List.find?_eq_some_iff_append.2 ⟨decide_eq_true kept, _, _, split, fun member earlier => ?_⟩
        simpa using lost member earlier
      rw [found]
      rfl
  | best lost best =>
      have none : (members.find? fun member => decide (hard ≤ (score member).hard)) = none := by
        rw [List.find?_eq_none]
        intro member listed
        simpa using lost member listed
      rw [none]
      exact best.found

end Choices

namespace FirstFit

open Director

variable {state after : FirstFit} {position : Nat} {lesson : Lesson}

/-- What completing makes of the placement of a lesson: one without a slot is placed, one that only lacks a room is
given one, and any other stays where it is. -/
inductive Chooses (score : Placement → Score) (hard : Int) (slots : List TimeSlot) (lesson : Lesson) :
    Placement → Prop
  | placed {chosen : Placement} (lacksSlot : lesson.slot = none)
      (first : FirstChoice score hard (lesson.placements slots) chosen) : Chooses score hard slots lesson chosen
  | roomed {chosen : Placement} (hasSlot : lesson.slot ≠ none) (lacksRoom : lesson.room = none)
      (someRooms : lesson.candidateRooms ≠ [])
      (first : FirstChoice score (score (inRoom lesson none)).hard
        (lesson.candidateRooms.map fun room => inRoom lesson (some room)) chosen) :
      Chooses score hard slots lesson chosen
  | seated (hasSlot : lesson.slot ≠ none) (housed : lesson.room ≠ none ∨ lesson.candidateRooms = []) :
      Chooses score hard slots lesson lesson.placement

def settled (score : Placement → Score) (hard : Int) (slots : List TimeSlot) (lesson : Lesson) : Placement :=
  if lesson.slot.isNone then (firstChoice? score hard (lesson.placements slots)).getD lesson.placement
  else if lesson.room.isNone && !lesson.candidateRooms.isEmpty then
    (firstChoice? score (score (inRoom lesson none)).hard
      (lesson.candidateRooms.map fun room => inRoom lesson (some room))).getD lesson.placement
  else lesson.placement

theorem Chooses.settled {score : Placement → Score} {hard : Int} {slots : List TimeSlot} {chosen : Placement}
    (chooses : Chooses score hard slots lesson chosen) : FirstFit.settled score hard slots lesson = chosen := by
  unfold FirstFit.settled
  cases chooses with
  | placed lacksSlot first => rw [if_pos (Option.isNone_iff_eq_none.2 lacksSlot), first.found, Option.getD_some]
  | roomed hasSlot lacksRoom someRooms first =>
      rw [if_neg (by simpa using hasSlot), if_pos (by simp [lacksRoom, someRooms]), first.found, Option.getD_some]
  | seated hasSlot housed =>
      rw [if_neg (by simpa using hasSlot), if_neg (by
        rcases housed with roomed | roomless
        · simp [roomed]
        · simp [roomless])]

theorem place_trial_chooses (consistent : state.director.Consistent) (working : state.Working)
    (found : state.director.lesson? position = some lesson) :
    ∃ chosen, FirstChoice (state.director.scoreWith position) state.director.score.hard
        (lesson.placements state.slots) chosen ∧
      state.director.Places position chosen ((placeTrial position lesson state).settled position) := by
  have scores : state.director.ScoresBy position (state.director.scoreWith position) := consistent.scores_by
  have roomless := full_score_le_roomless state.director.weights found
  have decides : (placeTrial position lesson state).Decides position state.director.score.hard state.director
      (state.director.scoreWith position) ([] ++ _) :=
    try_options_decides scores roomless lesson.roomOptions .start rfl fun _ listed => nomatch listed
  rw [List.nil_append, placements_of_pairs] at decides
  exact decides.first_choice (lesson.placements_ne_nil working.someSlots)

theorem room_trial_chooses (consistent : state.director.Consistent) (position : Nat)
    (someRooms : lesson.candidateRooms ≠ []) :
    ∃ chosen, FirstChoice (state.director.scoreWith position)
        (state.director.scoreWith position (inRoom lesson none)).hard
        (lesson.candidateRooms.map fun room => inRoom lesson (some room)) chosen ∧
      state.director.Places position chosen ((roomTrial position lesson state).settled position) := by
  have scores : state.director.ScoresBy position (state.director.scoreWith position) := consistent.scores_by
  have decides : (roomTrial position lesson state).Decides position
      (state.director.scoreWith position (inRoom lesson none)).hard state.director
      (state.director.scoreWith position)
      ([] ++ lesson.candidateRooms.map fun room => inRoom lesson (some room)) := by
    rw [← scores state.director .start (inRoom lesson none)]
    exact try_placements_decides scores (Tried.start.assign _) rfl fun _ listed => nomatch listed
  rw [List.nil_append] at decides
  exact decides.first_choice (by simpa using someRooms)

theorem moved_nowhere (consistent : state.director.Consistent)
    (found : state.director.lesson? position = some lesson) :
    state.director.Moved position lesson.placement state.director := by
  have places := places_assign state.director position lesson.placement
  have same : state.director.assign position lesson.placement = state.director := by
    unfold assign
    rw [found]
    exact if_pos rfl
  rw [same] at places
  exact places.moved consistent

theorem complete_chooses (consistent : state.director.Consistent) (working : state.Working)
    (found : state.director.lesson? position = some lesson)
    (done : (complete position).run state = .ok () after) :
    ∃ chosen, Chooses (state.director.scoreWith position) state.director.score.hard state.slots lesson chosen ∧
      state.director.Moved position chosen after.director ∧ after.slots = state.slots := by
  obtain ⟨_, _, got, rest⟩ := run_bind_ok.1 done
  obtain ⟨rfl, rfl⟩ := EStateM.Result.ok.inj got
  simp only [found] at rest
  split at rest
  · rename_i lacksSlot
    rw [run_discard, place_run working found] at rest
    obtain ⟨-, rfl⟩ := EStateM.Result.ok.inj rest
    obtain ⟨chosen, first, places⟩ := place_trial_chooses consistent working found
    exact ⟨chosen, .placed (Option.isNone_iff_eq_none.1 lacksSlot) first, places.moved consistent, rfl⟩
  · rename_i hasSlot
    split at rest
    · rename_i lacksRoom
      rw [Bool.and_eq_true] at lacksRoom
      have someRooms : lesson.candidateRooms ≠ [] := by simpa using lacksRoom.2
      rw [run_discard, place_room_run working found someRooms] at rest
      obtain ⟨-, rfl⟩ := EStateM.Result.ok.inj rest
      obtain ⟨chosen, first, places⟩ := room_trial_chooses consistent position someRooms
      exact ⟨chosen, .roomed (by simpa using hasSlot) (Option.isNone_iff_eq_none.1 lacksRoom.1) someRooms first,
        places.moved consistent, rfl⟩
    · rename_i settled
      obtain ⟨-, rfl⟩ := EStateM.Result.ok.inj rest
      rw [Bool.and_eq_true, not_and_or] at settled
      exact ⟨lesson.placement, .seated (by simpa using hasSlot) (settled.imp (by simp) (by simp)),
        moved_nowhere consistent found, rfl⟩

end FirstFit

theorem placed_at_perm {lessons others : List Lesson} (same : lessons.Perm others) {position other : Nat}
    {lesson : Lesson} (found : lessons[position]? = some lesson) (otherFound : others[other]? = some lesson)
    (placement : Placement) :
    (Director.placedAt lessons position placement).Perm (Director.placedAt others other placement) := by
  have apart : ∀ {members : List Lesson} {place : Nat}, members[place]? = some lesson →
      members.Perm (lesson :: members.eraseIdx place) ∧
        (Director.placedAt members place placement).Perm (lesson.placed placement :: members.eraseIdx place) := by
    intro members place there
    obtain ⟨bound, own⟩ := List.getElem?_eq_some_iff.1 there
    have rest := List.getElem_cons_eraseIdx_perm bound
    rw [own] at rest
    refine ⟨rest.symm, ?_⟩
    rw [Director.placedAt, List.modify_eq_set_getElem?, there]
    exact List.set_perm_cons_eraseIdx bound _
  obtain ⟨split, placed⟩ := apart found
  obtain ⟨otherSplit, otherPlaced⟩ := apart otherFound
  have rest := (split.symm.trans (same.trans otherSplit)).cons_inv
  exact placed.trans ((rest.cons _).trans otherPlaced.symm)

namespace FirstFit

open Director

def lessonIds (state : FirstFit) : List String := state.director.timetable.lessons.map (·.id)

structure Rearranged (first second : FirstFit) : Prop where
  lessons : first.director.timetable.lessons.Perm second.director.timetable.lessons
  distinct : first.lessonIds.Nodup
  weights : first.director.weights = second.director.weights
  slots : first.slots = second.slots
  consistent : first.director.Consistent
  otherConsistent : second.director.Consistent
  working : first.Working
  otherWorking : second.Working

variable {first second after otherAfter : FirstFit} {position other : Nat}

theorem ids_of_complete (consistent : first.director.Consistent)
    (done : (complete position).run first = .ok () after) : after.lessonIds = first.lessonIds :=
  ((completes_of_complete done).tracks ⟨consistent, rfl, .refl _⟩).arranges.ids

theorem Rearranged.score (rearranged : Rearranged first second) :
    first.director.score = second.director.score := by
  rw [rearranged.consistent.scored, rearranged.otherConsistent.scored, recalculate, recalculate,
    Timetable.fullScore, Timetable.fullScore, rearranged.weights, full_score_of_perm _ rearranged.lessons]

/-- Completing one lesson in both constructions, wherever it stands, gives it the same placement. -/
theorem Rearranged.complete (rearranged : Rearranged first second) {lesson : Lesson}
    (found : first.director.lesson? position = some lesson)
    (otherFound : second.director.lesson? other = some lesson)
    (done : (complete position).run first = .ok () after)
    (otherDone : (FirstFit.complete other).run second = .ok () otherAfter) : Rearranged after otherAfter := by
  obtain ⟨chosen, chooses, moved, slots⟩ := complete_chooses rearranged.consistent rearranged.working found done
  obtain ⟨otherChosen, otherChooses, otherMoved, otherSlots⟩ :=
    complete_chooses rearranged.otherConsistent rearranged.otherWorking otherFound otherDone
  have scores : first.director.scoreWith position = second.director.scoreWith other := by
    funext placement
    unfold scoreWith
    rw [rearranged.weights, full_score_of_perm _ (placed_at_perm rearranged.lessons found otherFound placement)]
  rw [scores, rearranged.score, rearranged.slots] at chooses
  obtain rfl := chooses.settled.symm.trans otherChooses.settled
  refine ⟨?_, ?_, ?_, ?_, moved.consistent, otherMoved.consistent,
    (completes_of_complete done).working rearranged.working,
    (completes_of_complete otherDone).working rearranged.otherWorking⟩
  · rw [moved.timetable, otherMoved.timetable]
    exact placed_at_perm rearranged.lessons found otherFound chosen
  · have distinct := rearranged.distinct
    rwa [← ids_of_complete rearranged.consistent done] at distinct
  · rw [moved.weights, otherMoved.weights, rearranged.weights]
  · rw [slots, otherSlots, rearranged.slots]

theorem Rearranged.same_lesson (rearranged : Rearranged first second) {left right : Lesson}
    (found : first.director.lesson? position = some left) (otherFound : second.director.lesson? other = some right)
    (same : left.id = right.id) : left = right := by
  have listed := List.mem_of_getElem? found
  have otherListed := rearranged.lessons.mem_iff.2 (List.mem_of_getElem? otherFound)
  exact List.inj_on_of_nodup_map rearranged.distinct listed otherListed same

theorem lesson_of_id {id : String} (listed : first.lessonIds[position]? = some id) :
    ∃ lesson, first.director.lesson? position = some lesson ∧ lesson.id = id := by
  unfold lessonIds at listed
  rw [List.getElem?_map] at listed
  exact Option.map_eq_some_iff.1 listed

/-- Completing lessons with the same ids one after the other leaves the constructions rearranged. -/
theorem Rearranged.complete_all {ids otherIds : List String} {positions others : List Nat}
    (paired : List.Forall₂ (fun position other => ∃ id, ids[position]? = some id ∧ otherIds[other]? = some id)
      positions others)
    (rearranged : Rearranged first second) (sameIds : first.lessonIds = ids)
    (otherSameIds : second.lessonIds = otherIds) (done : (completeAll positions).run first = .ok () after)
    (otherDone : (completeAll others).run second = .ok () otherAfter) : Rearranged after otherAfter := by
  induction paired generalizing first second with
  | nil =>
      obtain ⟨-, rfl⟩ := EStateM.Result.ok.inj done
      obtain ⟨-, rfl⟩ := EStateM.Result.ok.inj otherDone
      exact rearranged
  | cons own _ ih =>
      obtain ⟨id, listed, otherListed⟩ := own
      obtain ⟨lesson, found, hasId⟩ := lesson_of_id (sameIds ▸ listed)
      obtain ⟨otherLesson, otherFound, otherHasId⟩ := lesson_of_id (otherSameIds ▸ otherListed)
      obtain rfl := rearranged.same_lesson found otherFound (hasId.trans otherHasId.symm)
      obtain ⟨_, between, here, later⟩ := run_bind_ok.1 done
      obtain ⟨_, otherBetween, otherHere, otherLater⟩ := run_bind_ok.1 otherDone
      exact ih (rearranged.complete found otherFound here otherHere)
        ((ids_of_complete rearranged.consistent here).trans sameIds)
        ((ids_of_complete rearranged.otherConsistent otherHere).trans otherSameIds) later otherLater

theorem paired_of_maps {First Second Value : Type} {key : First → Option Value} {other : Second → Option Value}
    {values : List Value} {firsts : List First} {seconds : List Second} (mapped : firsts.map key = values.map some)
    (otherMapped : seconds.map other = values.map some) :
    List.Forall₂ (fun first second => ∃ value, key first = some value ∧ other second = some value)
      firsts seconds := by
  induction values generalizing firsts seconds with
  | nil =>
      obtain rfl := List.map_eq_nil_iff.1 mapped
      obtain rfl := List.map_eq_nil_iff.1 otherMapped
      exact .nil
  | cons value values ih =>
      obtain ⟨first, firsts, rfl, own, rest⟩ := List.map_eq_cons_iff.1 mapped
      obtain ⟨second, seconds, rfl, otherOwn, otherRest⟩ := List.map_eq_cons_iff.1 otherMapped
      exact .cons ⟨value, own, otherOwn⟩ (ih rest otherRest)

/-- Both constructions complete lessons with the same ids one after the other. -/
theorem Rearranged.orders (rearranged : Rearranged first second) :
    List.Forall₂ (fun position other => ∃ id, first.lessonIds[position]? = some id ∧
        second.lessonIds[other]? = some id)
      (constructionOrder first.director.timetable.lessons)
      (constructionOrder second.director.timetable.lessons) := by
  have sorted : ∀ state : FirstFit, (constructionOrder state.director.timetable.lessons).map
      (state.lessonIds[·]?) = ((sortedLessons state.director.timetable.lessons).map (·.id)).map some := by
    intro state
    have inOrder := congrArg (List.map (Option.map Lesson.id)) (lessons_in_order state.director.timetable.lessons)
    simpa [List.map_map, Function.comp_def, lessonIds] using inOrder
  have same := sorted_lessons_of_perm rearranged.lessons rearranged.distinct
  refine paired_of_maps (sorted first) ?_
  rw [same]
  exact sorted second

theorem Rearranged.run (rearranged : Rearranged first second) {score otherScore : Score}
    (done : FirstFit.run.run first = .ok score after)
    (otherDone : FirstFit.run.run second = .ok otherScore otherAfter) :
    score = otherScore ∧ Rearranged after otherAfter := by
  obtain ⟨completed, rfl⟩ := complete_all_of_run done
  obtain ⟨otherCompleted, rfl⟩ := complete_all_of_run otherDone
  have inTheEnd := rearranged.complete_all rearranged.orders rfl rfl completed otherCompleted
  exact ⟨inTheEnd.score, inTheEnd⟩

theorem Rearranged.lesson_by_id (rearranged : Rearranged first second) {lesson : Lesson}
    (listed : lesson ∈ first.director.timetable.lessons) :
    first.director.timetable.lesson? lesson.id = some lesson ∧
      second.director.timetable.lesson? lesson.id = some lesson := by
  have otherDistinct : (second.director.timetable.lessons.map (·.id)).Nodup :=
    (rearranged.lessons.map Lesson.id).nodup_iff.1 rearranged.distinct
  exact ⟨Problem.find_of_distinct rearranged.distinct listed,
    Problem.find_of_distinct otherDistinct (rearranged.lessons.mem_iff.1 listed)⟩

end FirstFit

open FirstFit in
/-- First-fit construction on two timetables that differ in the order of their lessons and slots alone, from whatever
is placed at first, ends with the same score and leaves each lesson in the same slot and with the same teacher and
room. -/
theorem first_fit_ignores_list_order {first second : Director} {lessons : List Lesson} {slots : List TimeSlot}
    (consistent : first.Consistent) (otherConsistent : second.Consistent) (weights : first.weights = second.weights)
    (same : second.timetable = { first.timetable with lessons := lessons, slots := slots })
    (sameLessons : first.timetable.lessons.Perm lessons) (sameSlots : first.timetable.slots.Perm slots)
    (distinctIds : (first.timetable.lessons.map (·.id)).Nodup)
    (distinctTimes : (first.timetable.slots.map fun slot => (slot.day, slot.period)).Nodup)
    (working : first.timetable.isFinal = false) (someSlots : first.timetable.slots ≠ []) :
    ∃ score after otherAfter, FirstFit.run.run (ofDirector first) = .ok score after ∧
      FirstFit.run.run (ofDirector second) = .ok score otherAfter ∧
      after.director.timetable.lessons.Perm otherAfter.director.timetable.lessons ∧
      ∀ lesson ∈ first.timetable.lessons, ∃ placement, placement.slot ≠ none ∧
        after.director.timetable.lesson? lesson.id = some (lesson.placed placement) ∧
        otherAfter.director.timetable.lesson? lesson.id = some (lesson.placed placement) := by
  have otherWorking : second.timetable.isFinal = false := by
    rw [same]
    exact working
  have otherSlots : second.timetable.slots ≠ [] := by
    rw [same]
    rintro rfl
    exact someSlots (List.perm_nil.1 sameSlots)
  have rearranged : Rearranged (ofDirector first) (ofDirector second) := by
    refine ⟨?_, distinctIds, weights, ?_, consistent, otherConsistent, working_of_director working someSlots,
      working_of_director otherWorking otherSlots⟩
    · change first.timetable.lessons.Perm second.timetable.lessons
      rw [same]
      exact sameLessons
    · change constructionSlots first.timetable.slots = constructionSlots second.timetable.slots
      rw [same]
      exact construction_slots_of_perm sameSlots distinctTimes
  obtain ⟨score, after, done⟩ := run_succeeds rearranged.working
  obtain ⟨otherScore, otherAfter, otherDone⟩ := run_succeeds rearranged.otherWorking
  obtain ⟨rfl, inTheEnd⟩ := rearranged.run done otherDone
  refine ⟨score, after, otherAfter, done, otherDone, inTheEnd.lessons, fun lesson listed => ?_⟩
  have arranges : after.director.timetable.Arranges first.timetable :=
    ((run_ok done).1.tracks ⟨consistent, rfl, .refl _⟩).arranges
  obtain ⟨placement, kept⟩ := arranges.lesson_kept listed
  obtain ⟨here, there⟩ := inTheEnd.lesson_by_id kept
  have placed : (lesson.placed placement).slot ≠ none :=
    ((fills_of_run consistent done).1.complete _ (List.mem_of_find?_eq_some here)).1
  exact ⟨placement, placed, here, there⟩

theorem crowded_hours_may_be_reversed :
    let first := Director.ofTimetable FirstFit.crowdedHours .standard
    let second := Director.ofTimetable { FirstFit.crowdedHours with
      lessons := FirstFit.crowdedHours.lessons.reverse
      slots := FirstFit.crowdedHours.slots.reverse } .standard
    ∃ score after otherAfter, FirstFit.run.run (.ofDirector first) = .ok score after ∧
      FirstFit.run.run (.ofDirector second) = .ok score otherAfter ∧
      ∀ lesson ∈ FirstFit.crowdedHours.lessons, ∃ placement, placement.slot ≠ none ∧
        after.director.timetable.lesson? lesson.id = some (lesson.placed placement) ∧
        otherAfter.director.timetable.lesson? lesson.id = some (lesson.placed placement) := by
  intro first second
  have same : first.timetable = FirstFit.crowdedHours := Director.of_timetable_timetable ..
  have otherSame : second.timetable = { first.timetable with
      lessons := first.timetable.lessons.reverse
      slots := first.timetable.slots.reverse } := by
    rw [same]
    exact Director.of_timetable_timetable ..
  have consistent : first.Consistent := Director.consistent_of_timetable ..
  have otherConsistent : second.Consistent := Director.consistent_of_timetable ..
  have distinctIds : (first.timetable.lessons.map (·.id)).Nodup := by
    rw [same]
    decide
  have distinctTimes : (first.timetable.slots.map fun slot => (slot.day, slot.period)).Nodup := by
    rw [same]
    decide
  have working : first.timetable.isFinal = false := by
    rw [same]
    rfl
  have someSlots : first.timetable.slots ≠ [] := by
    rw [same]
    decide
  obtain ⟨score, after, otherAfter, done, otherDone, -, alike⟩ :=
    first_fit_ignores_list_order consistent otherConsistent rfl otherSame (List.reverse_perm _).symm
      (List.reverse_perm _).symm distinctIds distinctTimes working someSlots
  rw [same] at alike
  exact ⟨score, after, otherAfter, done, otherDone, alike⟩

end SchoolTimetable
