import SchoolTimetable.Proofs.Search.Completion
import SchoolTimetable.Proofs.Search.Runs

/-!
What cannot fail. As long as a timetable is not final and has slots, lessons can be completed one after
the other, and a search that stops can always bring back its best.
-/

namespace SchoolTimetable

namespace FirstFit

variable {state after : FirstFit} {position : Nat}

structure Working (state : FirstFit) : Prop where
  open_ : state.director.timetable.isFinal = false
  someSlots : state.slots ≠ []

theorem place_succeeds (working : state.Working) (position : Nat) :
    ∃ score after, (place position).run state = .ok score after := by
  cases found : state.director.lesson? position with
  | none => simp [place, EStateM.run_bind, found]
  | some lesson =>
      simp only [place, EStateM.run_bind, EStateM.run_get, found, List.isEmpty_iff, working.someSlots,
        working.open_, ↓reduceIte, Bool.false_eq_true]
      exact ⟨_, _, rfl⟩

theorem place_room_succeeds {lesson : Lesson} (working : state.director.timetable.isFinal = false)
    (found : state.director.lesson? position = some lesson) (someRooms : lesson.candidateRooms ≠ []) :
    ∃ score after, (placeRoom position).run state = .ok score after := by
  simp only [placeRoom, EStateM.run_bind, EStateM.run_get, found, working, ↓reduceIte,
    Bool.false_eq_true, EStateM.run_set]
  split
  · exact ⟨_, _, rfl⟩
  · rename_i ended
    obtain ⟨-, noRooms⟩ := try_placements_remembers ended
    exact absurd (List.map_eq_nil_iff.1 noRooms) someRooms
  · exact ⟨_, _, rfl⟩

theorem complete_succeeds (working : state.Working) (position : Nat) :
    ∃ after, (complete position).run state = .ok () after := by
  cases found : state.director.lesson? position with
  | none => simp [complete, EStateM.run_bind, found]
  | some lesson =>
      simp only [complete, EStateM.run_bind, EStateM.run_get, found]
      split
      · obtain ⟨score, after, done⟩ := place_succeeds working position
        exact ⟨after, run_discard_ok done⟩
      · split
        · rename_i lacksRoom
          rw [Bool.and_eq_true] at lacksRoom
          obtain ⟨score, after, done⟩ :=
            place_room_succeeds working.open_ found (by simpa using lacksRoom.2)
          exact ⟨after, run_discard_ok done⟩
        · exact ⟨state, rfl⟩

theorem Completes.working (completes : Completes position state after) (working : state.Working) :
    after.Working := by
  cases completes with
  | absent => exact working
  | seated => exact working
  | placed _ _ _ places =>
      refine ⟨?_, working.someSlots⟩
      rw [places.timetable]
      exact working.open_
  | roomed _ _ _ _ places =>
      refine ⟨?_, working.someSlots⟩
      rw [places.timetable]
      exact working.open_

theorem complete_all_succeeds (working : state.Working) (positions : List Nat) :
    ∃ after, (completeAll positions).run state = .ok () after := by
  induction positions generalizing state with
  | nil => exact ⟨state, rfl⟩
  | cons position rest ih =>
      obtain ⟨between, first⟩ := complete_succeeds working position
      obtain ⟨after, others⟩ := ih ((completes_of_complete first).working working)
      exact ⟨after, run_bind_ok.2 ⟨(), between, first, others⟩⟩

theorem run_succeeds (working : state.Working) : ∃ score after, run.run state = .ok score after := by
  obtain ⟨after, completed⟩ :=
    complete_all_succeeds working (constructionOrder state.director.timetable.lessons)
  refine ⟨after.director.score, after, run_bind_ok.2 ⟨state, state, rfl, ?_⟩⟩
  exact run_bind_ok.2 ⟨(), after, completed, run_bind_ok.2 ⟨after, after, rfl, rfl⟩⟩

theorem working_of_director {director : Director} (working : director.timetable.isFinal = false)
    (someSlots : director.timetable.slots ≠ []) : (ofDirector director).Working := by
  obtain ⟨slot, others, same⟩ := List.exists_cons_of_ne_nil someSlots
  have listed : slot ∈ director.timetable.slots := by
    rw [same]
    exact List.mem_cons_self ..
  exact ⟨working, List.ne_nil_of_mem (mem_construction_slots.2 listed)⟩

end FirstFit

theorem Acceptor.of_settings_started {settings : AcceptorSettings}
    (notEmpty : 1 ≤ settings.historySize)
    (bounded : settings.historySize.toNat ≤ greatestHistory) (score : Score) :
    ∃ acceptor ready, ofSettings settings = .ok acceptor ∧ acceptor.started score = .ok ready := by
  unfold ofSettings
  split
  · let size := settings.historySize.toNat
    refine ⟨.lateAcceptance size #[] 0, .lateAcceptance size (Array.replicate size score) 0, ?_, ?_⟩
    · exact if_neg (not_lt.2 notEmpty)
    · exact if_neg (not_lt.2 bounded)
  · exact ⟨_, _, rfl, rfl⟩
  · exact ⟨_, _, rfl, rfl⟩

namespace Solver

variable {Source : Type} {timetable : Timetable} {config : Config}

theorem finish_terminates {search : LocalSearch Source} {weights : Weights} (solver : Solver Source)
    (sound : search.Sound timetable weights) (working : timetable.isFinal = false)
    (reason : StopReason) : ∃ result, (solver.finish search reason).stage = .terminated result := by
  have stillWorking : search.director.timetable.isFinal = false :=
    sound.tracks.arranges.isFinal.trans working
  have fits : search.best.snapshot.length = search.director.timetable.lessons.length :=
    sound.fits.trans sound.tracks.arranges.length.symm
  unfold finish
  rw [Timetable.restore_of_length stillWorking fits]
  exact ⟨_, rfl⟩

variable [RandomSource Source]

theorem advance_of_idle {solver : Solver Source} {director : Director} {source : Source}
    (stage : solver.stage = .idle source)
    (done : construct solver.placer solver.config solver.base = .ok director) :
    solver.advance.stage = .constructed director source ∧
      solver.advance.published = [⟨director.score, director.timetable.snapshot, 0⟩] := by
  simp only [advance, stage, done, and_self]

end Solver

end SchoolTimetable
