import SchoolTimetable.Proofs.Search.ListOrder

/-!
First fit without a director. The lessons are a value that each of them in turn replaces, and all that
decides about a placement is what the lessons would score with it, from scratch. Construction places the
lessons in the same way.
-/

namespace SchoolTimetable

namespace FirstFit

open Director

def settledAt (weights : Weights) (slots : List TimeSlot) (lessons : List Lesson) (position : Nat) : List Lesson :=
  match lessons[position]? with
  | none => lessons
  | some lesson =>
      let score := fun placement => fullScore weights (placedAt lessons position placement)
      placedAt lessons position (settled score (fullScore weights lessons).hard slots lesson)

structure ComesTo (state after : FirstFit) (lessons : List Lesson) : Prop where
  timetable : after.director.timetable = { state.director.timetable with lessons := lessons }
  weights : after.director.weights = state.director.weights
  slots : after.slots = state.slots
  consistent : after.director.Consistent
  working : after.Working

variable {state between after : FirstFit} {position : Nat} {positions : List Nat} {lessons : List Lesson}

theorem ComesTo.trans (first : state.ComesTo between lessons) {others : List Lesson}
    (second : between.ComesTo after others) : state.ComesTo after others where
  timetable := by rw [second.timetable, first.timetable]
  weights := second.weights.trans first.weights
  slots := second.slots.trans first.slots
  consistent := second.consistent
  working := second.working

theorem complete_settles (consistent : state.director.Consistent) (working : state.Working)
    (done : (complete position).run state = .ok () after) :
    state.ComesTo after
      (settledAt state.director.weights state.slots state.director.timetable.lessons position) := by
  have completes := completes_of_complete done
  have stillWorking := completes.working working
  unfold settledAt
  cases found : state.director.timetable.lessons[position]? with
  | none =>
      have missing : state.director.lesson? position = none := found
      have unchanged : after = state := by
        cases completes with
        | absent => rfl
        | seated there => cases there.symm.trans missing
        | placed there => cases there.symm.trans missing
        | roomed there => cases there.symm.trans missing
      subst unchanged
      exact ⟨rfl, rfl, rfl, consistent, working⟩
  | some lesson =>
      obtain ⟨chosen, chooses, moved, slots⟩ := complete_chooses consistent working found done
      have scored : state.director.score = fullScore state.director.weights state.director.timetable.lessons := by
        rw [consistent.scored]
        rfl
      dsimp only
      rw [← scored]
      refine ⟨?_, moved.weights, slots, moved.consistent, stillWorking⟩
      rw [moved.timetable, ← chooses.settled]
      rfl

theorem complete_all_settles (consistent : state.director.Consistent) (working : state.Working)
    (done : (completeAll positions).run state = .ok () after) :
    state.ComesTo after (positions.foldl (settledAt state.director.weights state.slots)
      state.director.timetable.lessons) := by
  induction positions generalizing state with
  | nil =>
      obtain ⟨-, rfl⟩ := EStateM.Result.ok.inj done
      exact ⟨rfl, rfl, rfl, consistent, working⟩
  | cons position rest ih =>
      obtain ⟨_, next, first, others⟩ := run_bind_ok.1 done
      have settles := complete_settles consistent working first
      have goesOn := ih settles.consistent settles.working others
      rw [settles.weights, settles.slots, settles.timetable] at goesOn
      exact settles.trans goesOn

end FirstFit

/-- The lessons after first fit, each settled by the scores that the lessons have with it. -/
def Timetable.firstFit (timetable : Timetable) (weights : Weights) : List Lesson :=
  (constructionOrder timetable.lessons).foldl (FirstFit.settledAt weights (constructionSlots timetable.slots))
    timetable.lessons

theorem Solver.construct_is_first_fit (placer : ExactPlacer) {config : Config} {timetable : Timetable}
    (firstFit : config.construction = .firstFit) (working : timetable.isFinal = false)
    (someSlots : timetable.slots ≠ []) :
    ∃ director, construct placer config timetable = .ok director ∧
      director.timetable = { timetable with lessons := timetable.firstFit config.weights } := by
  let fresh := Director.ofTimetable timetable config.weights
  have same : fresh.timetable = timetable := Director.of_timetable_timetable timetable config.weights
  have ready : (FirstFit.ofDirector fresh).Working :=
    FirstFit.working_of_director (by rwa [same]) (by rwa [same])
  obtain ⟨score, state, ran⟩ := FirstFit.run_succeeds ready
  have settles := FirstFit.complete_all_settles (Director.consistent_of_timetable ..) ready
    (FirstFit.complete_all_of_run ran).1
  refine ⟨state.director, ?_, ?_⟩
  · unfold construct
    simp only [firstFit, pure_bind]
    rw [ran]
    rfl
  · have weights : fresh.weights = config.weights := Director.of_timetable_weights timetable config.weights
    rw [settles.timetable]
    dsimp only [FirstFit.ofDirector]
    rw [weights, same]
    rfl

end SchoolTimetable
