import SchoolTimetable.Proofs.Search.RoomCosts
import SchoolTimetable.Proofs.Search.Success

/-!
Which placement a lesson is given. Of all placements in their order it is the first that keeps the hard
score, or, where none does, the first of those that score best. Passing over pairs of slot and teacher whose
score without a room is not above the best so far makes no difference: no room of theirs would be taken.
-/

namespace SchoolTimetable

section Choices

variable {Member : Type} (score : Member → Score)

def FirstBest (members : List Member) (chosen : Member) : Prop :=
  ∃ before after, members = before ++ chosen :: after ∧
    (∀ member ∈ before, score member < score chosen) ∧ ∀ member ∈ after, score member ≤ score chosen

/-- The first member that keeps the hard score, or else the first of the best. -/
inductive FirstChoice (hard : Int) (members : List Member) (chosen : Member) : Prop
  | keeps {before after : List Member} (split : members = before ++ chosen :: after)
      (kept : hard ≤ (score chosen).hard) (lost : ∀ member ∈ before, (score member).hard < hard)
  | best (lost : ∀ member ∈ members, (score member).hard < hard) (first : FirstBest score members chosen)

variable {score} {members more : List Member} {chosen next : Member}

theorem first_best_of_one (only : Member) : FirstBest score [only] only :=
  ⟨[], [], rfl, by simp, by simp⟩

theorem FirstBest.mem (best : FirstBest score members chosen) : chosen ∈ members := by
  obtain ⟨before, after, rfl, -, -⟩ := best
  simp

theorem FirstBest.score_le (best : FirstBest score members chosen) {member : Member}
    (listed : member ∈ members) : score member ≤ score chosen := by
  obtain ⟨before, after, rfl, below, atMost⟩ := best
  rcases List.mem_append.1 listed with earlier | later
  · exact (below member earlier).le
  · rcases List.mem_cons.1 later with rfl | behind
    · exact le_rfl
    · exact atMost member behind

theorem FirstBest.append (best : FirstBest score members chosen)
    (worse : ∀ member ∈ more, score member ≤ score chosen) :
    FirstBest score (members ++ more) chosen := by
  obtain ⟨before, after, rfl, below, atMost⟩ := best
  refine ⟨before, after ++ more, by simp, below, ?_⟩
  intro member listed
  rcases List.mem_append.1 listed with earlier | later
  · exact atMost member earlier
  · exact worse member later

theorem FirstBest.replace (best : FirstBest score members chosen) (better : score chosen < score next) :
    FirstBest score (members ++ [next]) next :=
  ⟨members, [], rfl, fun _ listed => (best.score_le listed).trans_lt better, by simp⟩

end Choices

/-- The best placement so far is the first of the best of those that were looked at, if there were any. -/
def BestTrial.LeadsAmong (score : Placement → Score) (seen : List Placement) : BestTrial → Prop
  | none => seen = []
  | some (kept, placement) => kept = score placement ∧ FirstBest score seen placement

namespace BestTrial.LeadsAmong

variable {score : Placement → Score} {seen : List Placement} {best : BestTrial}

theorem next (leads : best.LeadsAmong score seen) (placement : Placement) :
    BestTrial.LeadsAmong score (seen ++ [placement])
      (if best.isBeatenBy (score placement) then some (score placement, placement) else best) := by
  match best, leads with
  | none, leads =>
      obtain rfl : seen = [] := leads
      exact ⟨rfl, first_best_of_one placement⟩
  | some (_, held), ⟨rfl, first⟩ =>
      by_cases better : score held < score placement
      · have beaten : isBeatenBy (some (score held, held)) (score placement) := decide_eq_true better
        rw [if_pos beaten]
        exact ⟨rfl, first.replace better⟩
      · have unbeaten : ¬ isBeatenBy (some (score held, held)) (score placement) :=
          fun beaten => better (of_decide_eq_true beaten)
        rw [if_neg unbeaten]
        exact ⟨rfl, first.append (List.forall_mem_singleton.2 (not_lt.1 better))⟩

/-- Placements whose bound does not beat the best so far change nothing, and lose as many hard points. -/
theorem skip (leads : best.LeadsAmong score seen) {hard : Int} {bound : Score}
    {skipped : List Placement} (lost : ∀ placement ∈ seen, (score placement).hard < hard)
    (notBeaten : best.isBeatenBy bound = false) (bounded : ∀ placement ∈ skipped, score placement ≤ bound) :
    best.LeadsAmong score (seen ++ skipped) ∧
      ∀ placement ∈ seen ++ skipped, (score placement).hard < hard := by
  match best, leads with
  | none, _ => cases notBeaten
  | some (_, held), ⟨rfl, first⟩ =>
      have atMost : bound ≤ score held := by simpa [isBeatenBy] using notBeaten
      have worse : ∀ placement ∈ skipped, score placement ≤ score held :=
        fun placement listed => (bounded placement listed).trans atMost
      refine ⟨⟨rfl, first.append worse⟩, ?_⟩
      intro placement listed
      rcases List.mem_append.1 listed with earlier | later
      · exact lost placement earlier
      · have short := lost held first.mem
        have below := (Score.le_iff _ _).1 (worse placement later)
        omega

end BestTrial.LeadsAmong

section Trying

variable {position : Nat} {hard : Int} {start director : Director} {score : Placement → Score}
  {seen placements more : List Placement}

/-- Every placement that a lesson is given in trying scores what it would have scored at the start. -/
def Director.ScoresBy (start : Director) (position : Nat) (score : Placement → Score) : Prop :=
  ∀ director, Tried position start director → ∀ placement,
    (director.assign position placement).score = score placement

/-- A trial looked at placements in their order until one kept the hard score. If none did it
remembers the first of the best. -/
def Trial.Decides (position : Nat) (hard : Int) (start : Director) (score : Placement → Score)
    (seen : List Placement) : Trial → Prop
  | .fits next => ∃ before chosen after, seen = before ++ chosen :: after ∧ hard ≤ (score chosen).hard ∧
      (∀ placement ∈ before, (score placement).hard < hard) ∧ start.Places position chosen next
  | .tried director best => Director.Tried position start director ∧ best.LeadsAmong score seen ∧
      ∀ placement ∈ seen, (score placement).hard < hard

theorem Trial.Decides.fits_append {next : Director}
    (decides : (Trial.fits next).Decides position hard start score seen) (more : List Placement) :
    (Trial.fits next).Decides position hard start score (seen ++ more) := by
  obtain ⟨before, chosen, after, rfl, kept, lost, places⟩ := decides
  exact ⟨before, chosen, after ++ more, by simp, kept, lost, places⟩

theorem Trial.Decides.first_choice {trial : Trial}
    (decides : trial.Decides position hard start score seen) (someSeen : seen ≠ []) :
    ∃ chosen, FirstChoice score hard seen chosen ∧ start.Places position chosen (trial.settled position) := by
  match trial, decides with
  | .fits next, ⟨before, chosen, after, split, kept, lost, places⟩ =>
      exact ⟨chosen, .keeps split kept lost, places⟩
  | .tried director none, ⟨_, leads, _⟩ => exact absurd leads someSeen
  | .tried director (some (_, held)), ⟨before, ⟨rfl, first⟩, lost⟩ =>
      exact ⟨held, .best lost first, before.places held⟩

theorem try_placements_decides (scores : start.ScoresBy position score)
    (tried : Director.Tried position start director) {best : BestTrial}
    (leads : best.LeadsAmong score seen) (lost : ∀ placement ∈ seen, (score placement).hard < hard) :
    (tryPlacements position hard director best placements).Decides position hard start score
      (seen ++ placements) := by
  induction placements generalizing director best seen with
  | nil =>
      rw [List.append_nil]
      exact ⟨tried, leads, lost⟩
  | cons placement rest ih =>
      have scored := scores director tried placement
      unfold tryPlacements
      dsimp only
      rw [scored]
      split
      · rename_i kept
        exact ⟨seen, placement, rest, rfl, kept, lost, tried.places placement⟩
      · rename_i short
        rw [List.append_cons]
        apply ih (tried.assign placement) (leads.next placement)
        intro other listed
        rcases List.mem_append.1 listed with earlier | last
        · exact lost other earlier
        · rw [List.mem_singleton.1 last]
          exact not_le.1 short

def placementsOf (rooms : List (Option Room)) (options : List (TimeSlot × Option Teacher)) : List Placement :=
  options.flatMap fun option => rooms.map fun room => ⟨some option.1, room, option.2⟩

/-- Passing pairs over does not change what all placements in turn would come to, as long as no room
makes a pair better. -/
theorem try_options_decides (scores : start.ScoresBy position score)
    (roomless : ∀ slot room teacher, score ⟨slot, room, teacher⟩ ≤ score ⟨slot, none, teacher⟩)
    (rooms : List (Option Room)) {options : List (TimeSlot × Option Teacher)}
    (tried : Director.Tried position start director) {best : BestTrial}
    (leads : best.LeadsAmong score seen) (lost : ∀ placement ∈ seen, (score placement).hard < hard) :
    (tryOptions position hard rooms director best options).Decides position hard start score
      (seen ++ placementsOf rooms options) := by
  induction options generalizing director best seen with
  | nil =>
      rw [placementsOf, List.flatMap_nil, List.append_nil]
      exact ⟨tried, leads, lost⟩
  | cons option rest ih =>
      obtain ⟨slot, teacher⟩ := option
      have bounded := tried.assign ⟨some slot, none, teacher⟩
      have bound := scores director tried ⟨some slot, none, teacher⟩
      have own : placementsOf rooms ((slot, teacher) :: rest) =
        (rooms.map fun room => ⟨some slot, room, teacher⟩) ++ placementsOf rooms rest := rfl
      rw [own, ← List.append_assoc]
      unfold tryOptions
      dsimp only
      rw [bound]
      split
      · have decides : (tryPlacements position hard _ best (rooms.map fun room =>
            ⟨some slot, room, teacher⟩)).Decides position hard start score _ :=
          try_placements_decides scores bounded leads lost
        split
        · rename_i next ended
          rw [ended] at decides
          exact decides.fits_append _
        · rename_i next better ended
          rw [ended] at decides
          exact ih decides.1 decides.2.1 decides.2.2
      · rename_i unbeaten
        have skipped : ∀ placement ∈ rooms.map fun room => (⟨some slot, room, teacher⟩ : Placement),
            score placement ≤ score ⟨some slot, none, teacher⟩ := by
          intro placement listed
          obtain ⟨room, -, rfl⟩ := List.mem_map.1 listed
          exact roomless (some slot) room teacher
        obtain ⟨stillLeads, stillLost⟩ := leads.skip lost (Bool.eq_false_iff.2 unbeaten) skipped
        exact ih bounded stillLeads stillLost

end Trying

namespace Director

variable {start : Director} {position : Nat}

def scoreWith (director : Director) (position : Nat) (placement : Placement) : Score :=
  fullScore director.weights (placedAt director.timetable.lessons position placement)

/-- What a consistent director keeps in trying placements is the score from scratch. -/
theorem Consistent.scores_by (consistent : start.Consistent) :
    start.ScoresBy position (start.scoreWith position) := by
  intro director tried placement
  have tracks : start.Tracks start.timetable start.weights := ⟨consistent, rfl, .refl _⟩
  have after := (tried.tracks tracks).assign position placement
  rw [after.consistent.scored, recalculate, after.weights, tried.assign_timetable placement,
    assign_lessons]
  rfl

theorem Places.score {placement : Placement} {next : Director}
    (places : start.Places position placement next) (consistent : start.Consistent) :
    next.score = start.scoreWith position placement := by
  obtain ⟨director, tried, rfl⟩ := places
  exact consistent.scores_by director tried placement

end Director

namespace FirstFit

variable {state : FirstFit} {position : Nat} {lesson : Lesson}

/-- Placing a lesson ends where trying its slots, teachers and rooms ends. -/
theorem place_run (working : state.Working) (found : state.director.lesson? position = some lesson) :
    (place position).run state = .ok ((placeTrial position lesson state).settled position).score
      { state with
        director := (placeTrial position lesson state).settled position
        placed := state.placed + 1 } := by
  simp only [place, EStateM.run_bind, EStateM.run_get, found, List.isEmpty_iff, working.someSlots,
    working.open_, ↓reduceIte, Bool.false_eq_true]
  rfl

theorem place_room_run (working : state.Working) (found : state.director.lesson? position = some lesson)
    (someRooms : lesson.candidateRooms ≠ []) :
    (placeRoom position).run state = .ok ((roomTrial position lesson state).settled position).score
      { state with director := (roomTrial position lesson state).settled position } := by
  simp only [placeRoom, EStateM.run_bind, EStateM.run_get, found, working.open_, ↓reduceIte,
    Bool.false_eq_true, EStateM.run_set]
  split
  · rename_i next ended
    change roomTrial position lesson state = _ at ended
    rw [ended]
    rfl
  · rename_i ended
    obtain ⟨-, noRooms⟩ := try_placements_remembers ended
    exact absurd (List.map_eq_nil_iff.1 noRooms) someRooms
  · rename_i reached kept placement ended
    change roomTrial position lesson state = _ at ended
    rw [ended]
    rfl

theorem working_of_slots {director : Director} (working : director.timetable.isFinal = false)
    (someSlots : director.timetable.slots ≠ []) (placed : Nat) :
    Working ⟨director, constructionSlots director.timetable.slots, placed⟩ :=
  ⟨working, (working_of_director working someSlots).someSlots⟩

end FirstFit

/-- All placements of a lesson: slots in their order, in each slot the teachers, for each of them the
rooms. -/
def Lesson.placements (lesson : Lesson) (slots : List TimeSlot) : List Placement :=
  slots.flatMap fun slot => lesson.teacherOptions.flatMap fun teacher =>
    lesson.roomOptions.map fun room => ⟨some slot, room, teacher⟩

theorem placements_of_pairs (lesson : Lesson) (slots : List TimeSlot) :
    placementsOf lesson.roomOptions
        (slots.flatMap fun slot => lesson.teacherOptions.map fun teacher => (slot, teacher)) =
      lesson.placements slots := by
  unfold placementsOf Lesson.placements
  simp only [List.flatMap_assoc, List.flatMap_map]

theorem Lesson.placements_ne_nil (lesson : Lesson) {slots : List TimeSlot} (someSlots : slots ≠ []) :
    lesson.placements slots ≠ [] := by
  obtain ⟨slot, inSlots⟩ := List.exists_mem_of_ne_nil _ someSlots
  obtain ⟨teacher, inTeachers⟩ := List.exists_mem_of_ne_nil _ lesson.teacher_options_ne_nil
  obtain ⟨room, inRooms⟩ := List.exists_mem_of_ne_nil _ lesson.room_options_ne_nil
  exact List.ne_nil_of_mem (List.mem_flatMap.2 ⟨slot, inSlots,
    List.mem_flatMap.2 ⟨teacher, inTeachers, List.mem_map_of_mem inRooms⟩⟩)

namespace Director

/-- A consistent director that differs from another in the placement of the lesson at a position and in
nothing else. -/
structure Moved (start : Director) (position : Nat) (placement : Placement) (after : Director) : Prop where
  timetable : after.timetable = { start.timetable with
    lessons := placedAt start.timetable.lessons position placement }
  weights : after.weights = start.weights
  consistent : after.Consistent

theorem Places.moved {start next : Director} {position : Nat} {placement : Placement}
    (places : start.Places position placement next) (consistent : start.Consistent) :
    start.Moved position placement next := by
  have tracks : next.Tracks start.timetable start.weights := places.tracks ⟨consistent, rfl, .refl _⟩
  exact ⟨places.timetable, tracks.weights, tracks.consistent⟩

end Director

namespace FirstFit

open Director

/-- Passing over pairs of slot and teacher loses nothing. A lesson that is placed is given the first
choice of all its placements in the order of slots, teachers and rooms, measured by the hard score before;
picking a room gives it the first choice of its rooms, measured by the hard score without one. Its score is
returned, and no other lesson is changed. -/
theorem pruned_placement_is_exhaustive {director : Director} {position : Nat} {lesson : Lesson}
    (consistent : director.Consistent) (working : director.timetable.isFinal = false)
    (found : director.lesson? position = some lesson) (someSlots : director.timetable.slots ≠ [])
    (placed : Nat) :
    let slots := constructionSlots director.timetable.slots
    let score := director.scoreWith position
    (∃ chosen after, (place position).run ⟨director, slots, placed⟩ = .ok (score chosen) after ∧
      FirstChoice score (director.timetable.fullScore director.weights).hard (lesson.placements slots)
        chosen ∧
      director.Moved position chosen after.director ∧ after.slots = slots ∧ after.placed = placed + 1) ∧
    (lesson.candidateRooms ≠ [] → ∃ chosen after,
      (placeRoom position).run ⟨director, slots, placed⟩ = .ok (score chosen) after ∧
      FirstChoice score (score (inRoom lesson none)).hard
        (lesson.candidateRooms.map fun room => inRoom lesson (some room)) chosen ∧
      director.Moved position chosen after.director ∧ after.slots = slots ∧ after.placed = placed) := by
  intro slots score
  have ready := working_of_slots working someSlots placed
  have scores : director.ScoresBy position score := consistent.scores_by
  refine ⟨?_, ?_⟩
  · have roomless : ∀ slot room teacher, score ⟨slot, room, teacher⟩ ≤ score ⟨slot, none, teacher⟩ :=
      full_score_le_roomless director.weights found
    have decides : (placeTrial position lesson ⟨director, slots, placed⟩).Decides position
        director.score.hard director score ([] ++ _) :=
      try_options_decides scores roomless lesson.roomOptions .start rfl fun _ listed => nomatch listed
    rw [List.nil_append, placements_of_pairs] at decides
    obtain ⟨chosen, first, places⟩ :=
      decides.first_choice (lesson.placements_ne_nil ready.someSlots)
    have ran := place_run ready found
    rw [places.score consistent] at ran
    rw [consistent.scored] at first
    exact ⟨chosen, _, ran, first, places.moved consistent, rfl, rfl⟩
  · intro someRooms
    have given := scores director .start (inRoom lesson none)
    have decides : (roomTrial position lesson ⟨director, slots, placed⟩).Decides position
        (score (inRoom lesson none)).hard director score
        ([] ++ lesson.candidateRooms.map fun room => inRoom lesson (some room)) := by
      rw [← given]
      exact try_placements_decides scores (Tried.start.assign _) rfl fun _ listed => nomatch listed
    rw [List.nil_append] at decides
    obtain ⟨chosen, first, places⟩ := decides.first_choice (by simpa using someRooms)
    have ran := place_room_run ready found someRooms
    rw [places.score consistent] at ran
    exact ⟨chosen, _, ran, first, places.moved consistent, rfl, rfl⟩

/-- A lesson on Monday that lacks a room, and an open one of its class whose teacher is away in the only
other slot, so that no placement of it keeps the hard score. -/
def crowdedHours : Timetable :=
  let meier : Teacher := ⟨"meier", "Meier", none, 20, ["0-1"], [], [("maths", [5])]⟩
  let weber : Teacher := ⟨"weber", "Weber", none, 20, [], [], [("maths", [5])]⟩
  let maths : Subject := ⟨"maths", "Maths", none⟩
  let fifth : SchoolClass := ⟨"5a", "5a", 5, some 28, none⟩
  let closet : Room := ⟨"closet", "Closet", some 5, []⟩
  let hall : Room := ⟨"hall", "Hall", some 30, []⟩
  let early : TimeSlot := ⟨"monday-1", 0, 1, none, none⟩
  let late : TimeSlot := ⟨"monday-2", 0, 2, none, none⟩
  { term := "autumn"
    slots := [late, early]
    rooms := [closet, hall]
    teachers := [meier, weber]
    classes := [fifth]
    subjects := [maths]
    lessons := [⟨"seated", fifth, maths, .every, [weber], [closet, hall], ⟨some late, none, some weber⟩⟩,
      ⟨"open", fifth, maths, .every, [meier], [closet, hall], ⟨none, none, some meier⟩⟩]
    score := none
    isFinal := false }

theorem crowded_hours_take_first_choices :
    let director := Director.ofTimetable crowdedHours .standard
    let slots := constructionSlots crowdedHours.slots
    director.Consistent ∧ director.timetable = crowdedHours ∧
      (∃ lesson, director.lesson? 1 = some lesson ∧ lesson.slot = none ∧ ∃ chosen after,
        (place 1).run (.ofDirector director) = .ok (director.scoreWith 1 chosen) after ∧
        FirstChoice (director.scoreWith 1) (crowdedHours.fullScore director.weights).hard
          (lesson.placements slots) chosen) ∧
      ∃ lesson, director.lesson? 0 = some lesson ∧ lesson.candidateRooms ≠ [] ∧ ∃ chosen after,
        (placeRoom 0).run (.ofDirector director) = .ok (director.scoreWith 0 chosen) after ∧
        FirstChoice (director.scoreWith 0) (director.scoreWith 0 (inRoom lesson none)).hard
          (lesson.candidateRooms.map fun room => inRoom lesson (some room)) chosen := by
  intro director slots
  have consistent : director.Consistent := consistent_of_timetable crowdedHours .standard
  have same : director.timetable = crowdedHours := of_timetable_timetable crowdedHours .standard
  have working : director.timetable.isFinal = false := by rw [same]; rfl
  have someSlots : director.timetable.slots ≠ [] := by rw [same]; decide
  have found : ∀ position, director.lesson? position = crowdedHours.lessons[position]? := by
    intro position
    rw [lesson?, same]
  have placing := pruned_placement_is_exhaustive consistent working (found 1) someSlots 0
  have rooming := pruned_placement_is_exhaustive consistent working (found 0) someSlots 0
  rw [same] at placing rooming
  obtain ⟨chosen, after, ran, first, -⟩ := placing.1
  obtain ⟨room, roomed, roomRan, firstRoom, -⟩ := rooming.2 (by decide)
  refine ⟨consistent, same, ⟨_, found 1, rfl, chosen, after, ?_, first⟩,
    _, found 0, by decide, room, roomed, ?_, firstRoom⟩
  · rw [ofDirector, same]
    exact ran
  · rw [ofDirector, same]
    exact roomRan

end FirstFit

end SchoolTimetable
