import SchoolTimetable.Proofs.Search.FirstChoice

/-!
What a run of first fit leaves behind. Every lesson is visited once. One that had a slot keeps its slot and
its teacher and is given a room only if it lacks one; one that had no slot is given a slot, a teacher and a
room of its own. Nothing else is touched, and as many lessons are placed as had no slot.
-/

namespace SchoolTimetable

namespace Lesson

/-- A teacher that the lesson may be given: one of its candidates, or the one it has where there are none. -/
def TakesTeacher (lesson : Lesson) (teacher : Option Teacher) : Prop :=
  (∃ candidate ∈ lesson.candidateTeachers, teacher = some candidate) ∨
    lesson.candidateTeachers = [] ∧ teacher = lesson.teacher

/-- A room that the lesson may be given: one of its candidates, or none where there are none. -/
def TakesRoom (lesson : Lesson) (room : Option Room) : Prop :=
  (∃ candidate ∈ lesson.candidateRooms, room = some candidate) ∨ lesson.candidateRooms = [] ∧ room = none

/-- What first fit makes of a lesson. What the lesson had is kept, what it lacked is given. -/
structure CompletedTo (slots : List TimeSlot) (before after : Lesson) : Prop where
  same : after.unplaced = before.unplaced
  kept : before.slot ≠ none → after.slot = before.slot ∧ after.teacher = before.teacher ∧
    (before.room ≠ none → after.room = before.room)
  housed : before.slot ≠ none → before.room = none → before.TakesRoom after.room
  placed : before.slot = none → (∃ slot ∈ slots, after.slot = some slot) ∧
    before.TakesTeacher after.teacher ∧ before.TakesRoom after.room

variable {slots more : List TimeSlot} {lesson before after : Lesson}

theorem takes_of_teacher_options {teacher : Option Teacher} (offered : teacher ∈ lesson.teacherOptions) :
    lesson.TakesTeacher teacher := by
  unfold teacherOptions at offered
  split at offered
  · rename_i noTeachers
    exact .inr ⟨List.isEmpty_iff.1 noTeachers, List.mem_singleton.1 offered⟩
  · obtain ⟨candidate, listed, same⟩ := List.mem_map.1 offered
    exact .inl ⟨candidate, listed, same.symm⟩

theorem takes_of_room_options {room : Option Room} (offered : room ∈ lesson.roomOptions) :
    lesson.TakesRoom room := by
  unfold roomOptions at offered
  split at offered
  · rename_i noRooms
    exact .inr ⟨List.isEmpty_iff.1 noRooms, List.mem_singleton.1 offered⟩
  · obtain ⟨candidate, listed, same⟩ := List.mem_map.1 offered
    exact .inl ⟨candidate, listed, same.symm⟩

theorem TakesRoom.ne_none {room : Option Room} (takes : lesson.TakesRoom room)
    (someRooms : lesson.candidateRooms ≠ []) : room ≠ none := by
  rcases takes with ⟨candidate, -, rfl⟩ | ⟨noRooms, -⟩
  · exact Option.some_ne_none candidate
  · exact absurd noRooms someRooms

namespace CompletedTo

theorem mono (completed : CompletedTo slots before after) (within : slots ⊆ more) :
    CompletedTo more before after where
  same := completed.same
  kept := completed.kept
  housed := completed.housed
  placed open_ := by
    obtain ⟨⟨slot, listed, slotted⟩, others⟩ := completed.placed open_
    exact ⟨⟨slot, within listed, slotted⟩, others⟩

theorem slot_ne_none (completed : CompletedTo slots before after) : after.slot ≠ none := by
  by_cases open_ : before.slot = none
  · obtain ⟨⟨slot, -, slotted⟩, -⟩ := completed.placed open_
    exact slotted ▸ Option.some_ne_none slot
  · exact (completed.kept open_).1 ▸ open_

theorem room_ne_none (completed : CompletedTo slots before after)
    (someRooms : before.candidateRooms ≠ []) : after.room ≠ none := by
  by_cases open_ : before.slot = none
  · exact (completed.placed open_).2.2.ne_none someRooms
  · by_cases roomless : before.room = none
    · exact (completed.housed open_ roomless).ne_none someRooms
    · exact (completed.kept open_).2.2 roomless ▸ roomless

theorem candidate_rooms (completed : CompletedTo slots before after) :
    after.candidateRooms = before.candidateRooms := by
  have rooms := congrArg Lesson.candidateRooms completed.same
  exact rooms

end CompletedTo

end Lesson

namespace FirstFit

variable {state between after : FirstFit} {position : Nat} {positions : List Nat}

def isOpen (state : FirstFit) (position : Nat) : Bool :=
  (state.director.lesson? position).any fun lesson => lesson.slot.isNone

/-- The lessons at some positions are completed and no others are touched. -/
structure Visits (positions : List Nat) (state after : FirstFit) : Prop where
  completed : ∀ position ∈ positions, ∀ lesson, state.director.lesson? position = some lesson →
    ∃ next, after.director.lesson? position = some next ∧ lesson.CompletedTo state.slots next
  untouched : ∀ position, position ∉ positions →
    after.director.lesson? position = state.director.lesson? position
  placed : after.placed = state.placed + positions.countP state.isOpen
  slots : after.slots = state.slots

theorem visits_of_unchanged (settled : ∀ lesson, state.director.lesson? position = some lesson →
    lesson.slot ≠ none ∧ (lesson.room ≠ none ∨ lesson.candidateRooms = [])) :
    Visits [position] state state where
  completed place listed lesson found := by
    obtain rfl := List.mem_singleton.1 listed
    obtain ⟨hasSlot, housed⟩ := settled lesson found
    refine ⟨lesson, found, rfl, fun _ => ⟨rfl, rfl, fun _ => rfl⟩, ?_, fun open_ => absurd open_ hasSlot⟩
    intro _ roomless
    exact .inr ⟨housed.resolve_left fun hasRoom => hasRoom roomless, roomless⟩
  untouched _ _ := rfl
  placed := by
    have notOpen : state.isOpen position = false := by
      unfold isOpen
      cases found : state.director.lesson? position with
      | none => rfl
      | some lesson =>
          have hasSlot := (settled lesson found).1
          exact Option.isNone_eq_false_iff.2 (Option.isSome_iff_ne_none.2 hasSlot)
    simp [notOpen]
  slots := rfl

/-- A lesson that is given a placement is visited if the placement completes it. -/
theorem visits_of_places {lesson : Lesson} {placement : Placement} {next : Director} {placed : Nat}
    (found : state.director.lesson? position = some lesson)
    (places : state.director.Places position placement next)
    (completes : lesson.CompletedTo state.slots (lesson.placed placement))
    (counted : placed = state.placed + if lesson.slot = none then 1 else 0) :
    Visits [position] state ⟨next, state.slots, placed⟩ where
  completed place listed original there := by
    obtain rfl := List.mem_singleton.1 listed
    obtain rfl := Option.some.inj (found.symm.trans there)
    exact ⟨_, places.lesson_here found, completes⟩
  untouched place elsewhere := places.lesson_elsewhere (List.ne_of_not_mem_cons elsewhere)
  placed := by
    rw [counted, List.countP_singleton, isOpen, found]
    simp
  slots := rfl

theorem Completes.visits (completes : Completes position state after) : Visits [position] state after := by
  cases completes with
  | absent missing =>
      apply visits_of_unchanged
      intro lesson found
      rw [missing] at found
      cases found
  | @seated lesson found hasSlot settled =>
      apply visits_of_unchanged
      intro there thereFound
      obtain rfl := Option.some.inj (found.symm.trans thereFound)
      exact ⟨hasSlot, settled⟩
  | @placed lesson placement next found lacksSlot placeable places =>
      refine visits_of_places found places ?_ (by rw [if_pos lacksSlot])
      refine ⟨rfl, fun hasSlot => absurd lacksSlot hasSlot, fun hasSlot => absurd lacksSlot hasSlot, ?_⟩
      intro _
      exact ⟨placeable.slot, Lesson.takes_of_teacher_options placeable.teacher,
        Lesson.takes_of_room_options placeable.room⟩
  | @roomed lesson room next found hasSlot lacksRoom candidate places =>
      refine visits_of_places found places ?_ (by rw [if_neg hasSlot]; rfl)
      refine ⟨rfl, fun _ => ⟨rfl, rfl, fun hasRoom => absurd lacksRoom hasRoom⟩, ?_,
        fun open_ => absurd open_ hasSlot⟩
      exact fun _ _ => .inl ⟨room, candidate, rfl⟩

/-- One position after the other is visited, as long as none is visited twice. -/
theorem Visits.cons (first : Visits [position] state between) (others : Visits positions between after)
    (once : position ∉ positions) : Visits (position :: positions) state after where
  completed place listed lesson found := by
    rcases List.mem_cons.1 listed with rfl | later
    · obtain ⟨next, reached, completed⟩ := first.completed place (List.mem_singleton.2 rfl) lesson found
      exact ⟨next, (others.untouched place once).trans reached, completed⟩
    · have elsewhere : place ∉ [position] := fun here => once (List.mem_singleton.1 here ▸ later)
      rw [← first.untouched place elsewhere] at found
      obtain ⟨next, reached, completed⟩ := others.completed place later lesson found
      exact ⟨next, reached, first.slots ▸ completed⟩
  untouched place elsewhere := by
    obtain ⟨notHere, notLater⟩ := not_or.1 fun either => elsewhere (List.mem_cons.2 either)
    rw [others.untouched place notLater, first.untouched place (by simpa using notHere)]
  placed := by
    have same : positions.countP between.isOpen = positions.countP state.isOpen := by
      apply List.countP_congr
      intro place listed
      have elsewhere : place ∉ [position] := fun here => once (List.mem_singleton.1 here ▸ listed)
      rw [isOpen, isOpen, first.untouched place elsewhere]
    rw [others.placed, first.placed, same, List.countP_singleton, List.countP_cons]
    omega
  slots := others.slots.trans first.slots

theorem CompletesAll.visits (completes : CompletesAll positions state after) (once : positions.Nodup) :
    Visits positions state after := by
  induction completes with
  | nil state => exact ⟨fun _ listed => (nomatch listed), fun _ _ => rfl, rfl, rfl⟩
  | cons first others ih =>
      obtain ⟨fresh, distinct⟩ := List.nodup_cons.1 once
      exact first.visits.cons (ih distinct) fresh

theorem construction_order_nodup (lessons : List Lesson) : (constructionOrder lessons).Nodup := by
  unfold constructionOrder
  rw [((List.mergeSort_perm _ _).map _).nodup_iff, List.zipIdx_map_snd]
  exact List.nodup_range'

theorem count_open (state : FirstFit) :
    (constructionOrder state.director.timetable.lessons).countP state.isOpen =
      state.director.timetable.unassigned.length := by
  set lessons := state.director.timetable.lessons with same
  have atPlace : ∀ entry ∈ lessons.zipIdx, state.isOpen entry.2 = entry.1.slot.isNone := by
    intro entry listed
    have found : state.director.lesson? entry.2 = some entry.1 := List.mem_zipIdx_iff_getElem?.1 listed
    rw [isOpen, found]
    rfl
  calc
    (constructionOrder lessons).countP state.isOpen = (lessons.zipIdx.map (·.2)).countP state.isOpen :=
      ((List.mergeSort_perm _ _).map _).countP_eq _
    _ = lessons.zipIdx.countP fun entry => entry.1.slot.isNone := by
      rw [List.countP_map]
      exact List.countP_congr fun entry listed => by rw [← atPlace entry listed]; rfl
    _ = (lessons.zipIdx.map (·.1)).countP (·.slot.isNone) := by
      rw [List.countP_map]
      rfl
    _ = state.director.timetable.unassigned.length := by
      rw [List.zipIdx_map_fst, List.countP_eq_length_filter]
      rfl

theorem Visits.forall_completed (visits : Visits positions state after)
    (all : ∀ place < state.director.timetable.lessons.length, place ∈ positions)
    (sameLength : after.director.timetable.lessons.length = state.director.timetable.lessons.length) :
    List.Forall₂ (Lesson.CompletedTo state.slots) state.director.timetable.lessons
      after.director.timetable.lessons := by
  rw [List.forall₂_iff_get]
  refine ⟨sameLength.symm, ?_⟩
  intro place bound otherBound
  obtain ⟨next, reached, completed⟩ := visits.completed place (all place bound) _
    (List.getElem?_eq_getElem bound)
  have same := (List.getElem?_eq_getElem otherBound).symm.trans reached
  rw [List.get_eq_getElem, List.get_eq_getElem, Option.some.inj same]
  exact completed

structure Fills (state after : FirstFit) : Prop where
  facts : after.director.timetable =
    { state.director.timetable with lessons := after.director.timetable.lessons }
  complete : ∀ lesson ∈ after.director.timetable.lessons,
    lesson.slot ≠ none ∧ (lesson.candidateRooms ≠ [] → lesson.room ≠ none)
  lessons : List.Forall₂ (Lesson.CompletedTo state.director.timetable.slots)
    state.director.timetable.lessons after.director.timetable.lessons
  placed : after.placed = state.placed + state.director.timetable.unassigned.length

theorem fills_of_run {director : Director} (consistent : director.Consistent) {placed : Nat} {score : Score}
    (ran : run.run ⟨director, constructionSlots director.timetable.slots, placed⟩ = .ok score after) :
    Fills ⟨director, constructionSlots director.timetable.slots, placed⟩ after ∧
      score = after.director.timetable.fullScore director.weights := by
  obtain ⟨completes, rfl⟩ := run_ok ran
  have tracks : after.director.Tracks director.timetable director.weights :=
    completes.tracks ⟨consistent, rfl, .refl _⟩
  have visits := completes.visits (construction_order_nodup _)
  have completed := (visits.forall_completed (fun _ => mem_construction_order.2) tracks.arranges.length).imp
    fun _ _ each => each.mono fun _ => mem_construction_slots.1
  refine ⟨⟨tracks.arranges.facts, ?_, completed, ?_⟩, ?_⟩
  · intro lesson listed
    obtain ⟨place, bound, rfl⟩ := List.mem_iff_getElem.1 listed
    have each := completed.get (completed.length_eq ▸ bound) bound
    exact ⟨each.slot_ne_none, fun someRooms => each.room_ne_none (each.candidate_rooms ▸ someRooms)⟩
  · rw [visits.placed, count_open]
  · rw [tracks.consistent.scored, Director.recalculate, tracks.weights]

/-- First fit on a timetable that is not final and has slots comes to its end, whatever is placed already.
Then every lesson has a slot, and a room if there are rooms for it. A lesson that had a slot has kept all it
had, one that had none has been given a slot of the timetable and what there is for it; nothing else differs.
As many lessons were placed as had no slot, and the score that is returned is the score from scratch. -/
theorem first_fit_completes {director : Director} (consistent : director.Consistent)
    (working : director.timetable.isFinal = false) (someSlots : director.timetable.slots ≠ [])
    (placed : Nat) :
    let state : FirstFit := ⟨director, constructionSlots director.timetable.slots, placed⟩
    ∃ score after, run.run state = .ok score after ∧ state.Fills after ∧
      score = after.director.timetable.fullScore director.weights := by
  intro state
  obtain ⟨score, after, ran⟩ := run_succeeds (working_of_slots working someSlots placed)
  exact ⟨score, after, ran, fills_of_run consistent ran⟩

theorem crowded_hours_are_filled :
    let director := Director.ofTimetable crowdedHours .standard
    director.Consistent ∧ crowdedHours.isFinal = false ∧ crowdedHours.slots ≠ [] ∧
      ∃ score after, run.run (.ofDirector director) = .ok score after ∧ (ofDirector director).Fills after ∧
        score = after.director.timetable.fullScore director.weights := by
  intro director
  have consistent : director.Consistent := Director.consistent_of_timetable crowdedHours .standard
  have same : director.timetable = crowdedHours := Director.of_timetable_timetable crowdedHours .standard
  have working : director.timetable.isFinal = false := by rw [same]; rfl
  have someSlots : director.timetable.slots ≠ [] := by rw [same]; decide
  exact ⟨consistent, rfl, by decide, first_fit_completes consistent working someSlots 0⟩

end FirstFit

end SchoolTimetable
