import SchoolTimetable.Proofs.Search.Placing
import SchoolTimetable.Search.Solver

/-!
What construction delivers. Whoever places all lessons at once, and whether or not that succeeds,
construction arranges the lessons of the timetable it is given, with score and index in order.
-/

namespace SchoolTimetable

namespace Director

variable {director next : Director} {base : Timetable} {weights : Weights}

/-- A choice of a slot that the timetable has is a change of its lesson; any other is passed over. -/
theorem apply_choice_ok {choice : Choice} (applied : director.applyChoice choice = .ok next) :
    (∃ slot, director.timetable.slots[choice.slot]? = some slot ∧
        director.change choice.lesson [.slot (some slot), .teacher choice.teacher] = .ok next) ∨
      director.timetable.slots[choice.slot]? = none ∧ next = director := by
  unfold applyChoice at applied
  cases found : director.timetable.slots[choice.slot]? with
  | none =>
      rw [found] at applied
      exact .inr ⟨rfl, (Except.ok.inj applied).symm⟩
  | some slot =>
      rw [found] at applied
      exact .inl ⟨slot, rfl, applied⟩

theorem Tracks.apply_choice {choice : Choice} (tracks : director.Tracks base weights)
    (applied : director.applyChoice choice = .ok next) : next.Tracks base weights := by
  rcases apply_choice_ok applied with ⟨slot, -, changed⟩ | ⟨-, rfl⟩
  · exact tracks.change changed
  · exact tracks

theorem Tracks.apply_choices {choices : List Choice} (tracks : director.Tracks base weights)
    (applied : choices.foldlM applyChoice director = .ok next) : next.Tracks base weights := by
  induction choices generalizing director with
  | nil =>
      obtain rfl := Except.ok.inj applied
      exact tracks
  | cons choice rest ih =>
      rw [List.foldlM_cons] at applied
      obtain ⟨between, first, others⟩ := bind_ok.1 applied
      exact ih (tracks.apply_choice first) others

/-- Placing all lessons at once takes the choices of a solution that was found, or does nothing. -/
theorem place_exactly_ok {placer : ExactPlacer} {seed : Option Int} {status : ExactStatus}
    (placed : director.placeExactlyBy placer seed = .ok (status, next)) :
    status ≠ .optimal ∧ next = director ∨ status = .optimal ∧ ∃ taken,
      (PlacementModel.build director.timetable).complete ∧
        placer (PlacementModel.build director.timetable) = some taken ∧
        ((PlacementModel.build director.timetable).choices.filter taken).foldlM applyChoice director =
          .ok next := by
  unfold placeExactlyBy at placed
  dsimp only at placed
  split at placed
  · rename_i complete
    split at placed
    · split at placed
      · rename_i taken answered
        obtain ⟨after, applied, same⟩ := bind_ok.1 placed
        obtain ⟨rfl, rfl⟩ := Prod.mk.inj (Except.ok.inj same)
        exact .inr ⟨rfl, taken, complete, answered, applied⟩
      · obtain ⟨rfl, rfl⟩ := Prod.mk.inj (Except.ok.inj placed)
        exact .inl ⟨by decide, rfl⟩
    · cases placed
  · obtain ⟨rfl, rfl⟩ := Prod.mk.inj (Except.ok.inj placed)
    exact .inl ⟨by decide, rfl⟩

theorem Tracks.place_exactly {placer : ExactPlacer} {seed : Option Int} {status : ExactStatus}
    (tracks : director.Tracks base weights)
    (placed : director.placeExactlyBy placer seed = .ok (status, next)) :
    next.Tracks base weights := by
  rcases place_exactly_ok placed with ⟨-, rfl⟩ | ⟨-, taken, -, -, applied⟩
  · exact tracks
  · exact tracks.apply_choices applied

end Director

namespace Solver

variable {placer : ExactPlacer} {config : Config} {timetable : Timetable} {director : Director}

private theorem completed_ok {begun : Director}
    (completed : (match FirstFit.run.run (FirstFit.ofDirector begun) with
      | .ok _ state => pure state.director
      | .error fault _ => throw fault : Except PlanningFault Director) = .ok director) :
    ∃ state, FirstFit.CompletesAll (constructionOrder begun.timetable.lessons) (.ofDirector begun)
      state ∧ director = state.director := by
  split at completed
  · rename_i score state ran
    exact ⟨state, (FirstFit.run_ok ran).1, (Except.ok.inj completed).symm⟩
  · cases completed

/-- Construction starts from what was placed at once, if anything was, and completes all lessons. -/
theorem construct_ok (constructed : construct placer config timetable = .ok director) :
    ∃ begun state, (begun = Director.ofTimetable timetable config.weights ∨ ∃ status,
        (Director.ofTimetable timetable config.weights).placeExactlyBy placer config.seed =
          .ok (status, begun)) ∧
      FirstFit.CompletesAll (constructionOrder begun.timetable.lessons) (.ofDirector begun) state ∧
      director = state.director := by
  unfold construct at constructed
  dsimp only at constructed
  split at constructed
  · obtain ⟨⟨status, begun⟩, placing, rest⟩ := bind_ok.1 constructed
    obtain ⟨state, completes, same⟩ := completed_ok rest
    exact ⟨begun, state, .inr ⟨status, placing⟩, completes, same⟩
  · obtain ⟨state, completes, same⟩ := completed_ok constructed
    exact ⟨_, state, .inl rfl, completes, same⟩

theorem tracks_of_begun {begun : Director}
    (chosen : begun = Director.ofTimetable timetable config.weights ∨ ∃ status,
      (Director.ofTimetable timetable config.weights).placeExactlyBy placer config.seed =
        .ok (status, begun)) :
    begun.Tracks timetable config.weights := by
  have fresh := Director.tracks_of_timetable timetable config.weights
  rcases chosen with rfl | ⟨status, placing⟩
  · exact fresh
  · exact fresh.place_exactly placing

theorem tracks_of_construct (constructed : construct placer config timetable = .ok director) :
    director.Tracks timetable config.weights := by
  obtain ⟨begun, state, chosen, completes, rfl⟩ := construct_ok constructed
  have ready : (FirstFit.ofDirector begun).director.Tracks timetable config.weights :=
    tracks_of_begun chosen
  exact completes.tracks ready

end Solver

end SchoolTimetable
