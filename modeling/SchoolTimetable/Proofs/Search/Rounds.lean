import SchoolTimetable.Proofs.Search.Selection
import SchoolTimetable.Search.LocalSearch

/-!
Rounds of the local search. A round counts its move, keeps what its move made or takes it back, and
tells the acceptor; nothing else happens. So the current score stays that of the working timetable, no
candidate ever scores better than the best one, and the best one is remembered with its placements.
-/

namespace SchoolTimetable

variable {Source : Type}

section Acceptance

variable [RandomSource Source]

/-- Every acceptor keeps what does not worsen the score, and draws nothing for it. -/
theorem accepts_of_le (acceptor : Acceptor) {current candidate : Score} (atLeast : current ≤ candidate)
    (source : Source) :
    (acceptor.accepts current candidate).run source = .ok true source := by
  unfold Acceptor.accepts
  rw [if_pos atLeast]
  rfl

theorem lt_of_rejected {acceptor : Acceptor} {current candidate : Score} {source after : Source}
    (rejected : (acceptor.accepts current candidate).run source = .ok false after) :
    candidate < current := by
  by_contra notBelow
  rw [accepts_of_le acceptor (not_lt.1 notBelow)] at rejected
  obtain ⟨same, -⟩ := EStateM.Result.ok.inj rejected
  cases same

end Acceptance

namespace LocalSearch

def counted (search : LocalSearch Source) (source : Source) : LocalSearch Source :=
  { search with
    source := source
    evaluated := search.evaluated + 1
    unimproved := search.unimproved + 1 }

theorem keep_acceptor (search : LocalSearch Source) (moved : Director) :
    (search.keep moved).acceptor = search.acceptor := by
  unfold keep
  split <;> rfl

theorem keep_current (search : LocalSearch Source) (moved : Director) :
    (search.keep moved).current = moved.score := by
  unfold keep
  split <;> rfl

theorem end_round_ok {search next : LocalSearch Source} (ended : search.endRound = .ok next) :
    ∃ acceptor, search.acceptor.stepEnded search.current = .ok acceptor ∧
      next = { search with acceptor := acceptor } := by
  obtain ⟨acceptor, stepped, same⟩ := bind_ok.1 ended
  exact ⟨acceptor, stepped, (Except.ok.inj same).symm⟩

/-- A search over the arrangements of a timetable. The current score is that of the working
arrangement and not above the best one, which is that of the remembered placements. -/
structure Sound (search : LocalSearch Source) (base : Timetable) (weights : Weights) : Prop where
  tracks : search.director.Tracks base weights
  current : search.current = search.director.score
  best : search.best.score = fullScore weights (base.lessonsWith search.best.snapshot)
  fits : search.best.snapshot.length = base.lessons.length
  atMost : search.current ≤ search.best.score

section Keeping

variable {search : LocalSearch Source} {base : Timetable} {weights : Weights}

theorem sound_start {settings : AcceptorSettings} {director : Director} {source : Source}
    {search : LocalSearch Source} (tracks : director.Tracks base weights)
    (started : start settings director source = .ok search) :
    search.Sound base weights ∧ search.director = director ∧
      search.best = ⟨director.score, director.timetable.snapshot, 0⟩ := by
  obtain ⟨acceptor, -, rest⟩ := bind_ok.1 started
  obtain ⟨ready, -, same⟩ := bind_ok.1 rest
  obtain rfl := Except.ok.inj same
  have length := (Timetable.snapshot_length director.timetable).trans tracks.arranges.length
  exact ⟨⟨tracks, rfl, tracks.score_eq, length, le_refl _⟩, rfl, rfl⟩

/-- What a kept candidate leaves: the working arrangement is the candidate's, and the best one is the
better of the two. -/
theorem Sound.keep (sound : search.Sound base weights) {moved : Director}
    (tracks : moved.Tracks base weights) :
    (search.keep moved).Sound base weights ∧ moved.score ≤ (search.keep moved).best.score ∧
      ((search.keep moved).best = search.best ∨
        search.best.score < moved.score ∧ (search.keep moved).best.score = moved.score) := by
  by_cases better : search.best.score < moved.score
  · have length := (Timetable.snapshot_length moved.timetable).trans tracks.arranges.length
    rw [LocalSearch.keep, if_pos better]
    exact ⟨⟨tracks, rfl, tracks.score_eq, length, le_refl _⟩, le_refl _, .inr ⟨better, rfl⟩⟩
  · have notBetter := not_lt.1 better
    rw [LocalSearch.keep, if_neg better]
    exact ⟨⟨tracks, rfl, sound.best, sound.fits, notBetter⟩, notBetter, .inl rfl⟩

end Keeping

variable [RandomSource Source]

def candidate? (search : LocalSearch Source) : Option Score :=
  match (Move.select search.director.timetable).run search.source with
  | .ok (some move) _ =>
      match move.perform search.director with
      | .ok moved => some moved.score
      | .error _ => none
  | _ => none

/-- All that a round can do: it finds no move, keeps the candidate, or takes the move back. -/
inductive RoundTo (search : LocalSearch Source) : LocalSearch Source → Prop
  | idle {source : Source} {acceptor : Acceptor}
      (selected : (Move.select search.director.timetable).run search.source = .ok none source)
      (ended : search.acceptor.stepEnded search.current = .ok acceptor) :
      RoundTo search { search.counted source with acceptor := acceptor }
  | kept {move : Move} {moved : Director} {between source : Source} {acceptor : Acceptor}
      (selected : (Move.select search.director.timetable).run search.source = .ok (some move) between)
      (performed : move.perform search.director = .ok moved)
      (accepted : (search.acceptor.accepts search.current moved.score).run between = .ok true source)
      (ended : search.acceptor.stepEnded moved.score = .ok acceptor) :
      RoundTo search { (search.counted source).keep moved with acceptor := acceptor }
  | undone {move : Move} {moved back : Director} {between source : Source} {acceptor : Acceptor}
      (selected : (Move.select search.director.timetable).run search.source = .ok (some move) between)
      (performed : move.perform search.director = .ok moved)
      (rejected : (search.acceptor.accepts search.current moved.score).run between = .ok false source)
      (undone : move.inverse.perform moved = .ok back)
      (ended : search.acceptor.stepEnded search.current = .ok acceptor) :
      RoundTo search { search.counted source with director := back, acceptor := acceptor }

theorem round_to_of_round {search next : LocalSearch Source} (done : search.round = .ok next) :
    search.RoundTo next := by
  unfold round at done
  split at done
  · cases done
  · rename_i move between selected
    cases move with
    | none =>
        obtain ⟨tried, tries, endDone⟩ := bind_ok.1 done
        obtain ⟨acceptor, ended, rfl⟩ := end_round_ok endDone
        obtain rfl := Except.ok.inj tries
        exact .idle selected ended
    | some move =>
        obtain ⟨tried, tries, endDone⟩ := bind_ok.1 done
        obtain ⟨acceptor, ended, rfl⟩ := end_round_ok endDone
        obtain ⟨moved, performed, answered⟩ := bind_ok.1 tries
        split at answered
        · cases answered
        · rename_i source accepted
          obtain rfl := Except.ok.inj answered
          rw [keep_acceptor, keep_current] at ended
          exact .kept selected performed accepted ended
        · rename_i source rejected
          obtain ⟨back, undone, same⟩ := bind_ok.1 answered
          obtain rfl := Except.ok.inj same
          exact .undone selected performed rejected undone ended

/-- The best placements after a round: the old ones, or those of a candidate that is better. -/
def Improves (search next : LocalSearch Source) : Prop :=
  next.best = search.best ∨
    search.best.score < next.best.score ∧ search.candidate? = some next.best.score

variable {search next : LocalSearch Source} {base : Timetable} {weights : Weights}

theorem candidate_of_selected {move : Move} {moved : Director} {between : Source}
    (selected : (Move.select search.director.timetable).run search.source = .ok (some move) between)
    (performed : move.perform search.director = .ok moved) : search.candidate? = some moved.score := by
  simp only [candidate?, selected, performed]

/-- A round keeps the search sound, remembers the candidate if it is the best so far, and leaves no
candidate above the best. -/
theorem Sound.round (sound : search.Sound base weights) (done : search.round = .ok next) :
    next.Sound base weights ∧ search.Improves next ∧
      ∀ score, search.candidate? = some score → score ≤ next.best.score := by
  cases round_to_of_round done with
  | idle selected ended =>
      have noCandidate : search.candidate? = none := by simp only [candidate?, selected]
      exact ⟨⟨sound.tracks, sound.current, sound.best, sound.fits, sound.atMost⟩, .inl rfl,
        fun score found => by rw [noCandidate] at found; cases found⟩
  | @kept move moved between source acceptor selected performed accepted ended =>
      have candidate := candidate_of_selected selected performed
      have counted : (search.counted source).Sound base weights :=
        ⟨sound.tracks, sound.current, sound.best, sound.fits, sound.atMost⟩
      obtain ⟨after, reached, improved⟩ := counted.keep (sound.tracks.perform performed)
      refine ⟨⟨after.tracks, after.current, after.best, after.fits, after.atMost⟩, ?_, ?_⟩
      · rcases improved with same | ⟨better, equal⟩
        · exact .inl same
        · exact .inr ⟨equal ▸ better, candidate.trans (congrArg some equal.symm)⟩
      · intro score found
        obtain rfl := Option.some.inj (candidate.symm.trans found)
        exact reached
  | @undone move moved back between source acceptor selected performed rejected undone ended =>
      have candidate := candidate_of_selected selected performed
      have offered := (Move.select_some selected).1
      obtain ⟨restored, restoredDone, same⟩ := Move.inverse_undoes offered.recalls performed
      obtain rfl := Except.ok.inj (undone.symm.trans restoredDone)
      have tracks := (sound.tracks.perform performed).perform undone
      -- The score is a function of the placements, and these are back where they were.
      have backScore : back.score = search.director.score := by
        rw [tracks.score_eq, sound.tracks.score_eq, same]
      refine ⟨⟨tracks, sound.current.trans backScore.symm, sound.best, sound.fits, sound.atMost⟩,
        .inl rfl, ?_⟩
      intro score found
      obtain rfl := Option.some.inj (candidate.symm.trans found)
      -- A rejected candidate is below the current score, which is never above the best.
      exact (lt_of_rejected rejected).le.trans sound.atMost

end LocalSearch

end SchoolTimetable
