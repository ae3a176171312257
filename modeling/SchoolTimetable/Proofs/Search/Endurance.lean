import SchoolTimetable.Proofs.Random.Inexhaustible
import SchoolTimetable.Proofs.Search.Ranges

/-!
What a round can fail by. With a source that never comes to its end a move can always be picked, made
and taken back, and the acceptor can always be told of it. It can always be asked, too, unless it is
simulated annealing and the loss is greater than any number: that is the only way for a round to fail.
-/

namespace SchoolTimetable

variable {Source : Type} [RandomSource Source]

def Timetable.HasSlots (timetable : Timetable) : Prop := timetable.lessons ≠ [] → timetable.slots ≠ []

theorem Timetable.Arranges.hasSlots {timetable base : Timetable} (arranges : timetable.Arranges base)
    (slots : base.HasSlots) : timetable.HasSlots := by
  intro someLessons
  rw [arranges.slots]
  apply slots
  intro noLessons
  have noneLeft := arranges.length
  rw [noLessons] at noneLeft
  exact someLessons (List.eq_nil_of_length_eq_zero noneLeft)

section Picking

theorem MoveKind.draw_succeeds (inexhaustible : Inexhaustible Source) (source : Source) :
    ∃ kind after, MoveKind.draw.run source = .ok kind after := by
  obtain ⟨position, after, drawn, within⟩ :=
    inexhaustible.weighted (frequencies.map (·.2)) (by decide) source
  rw [List.length_map] at within
  refine ⟨frequencies[position].1, after, run_bind_ok.2 ⟨position, after, drawn, ?_⟩⟩
  rw [List.getElem?_eq_getElem within]
  rfl

namespace Move

variable {timetable : Timetable}

theorem pick_succeeds (inexhaustible : Inexhaustible Source) (someSlots : timetable.slots ≠ [])
    (position : Nat) (lesson : Lesson) (kind : MoveKind) (source : Source) :
    ∃ move after, (pick timetable position lesson kind).run source = .ok move after := by
  unfold pick
  split
  · rename_i rooms
    obtain ⟨room, after, chosen⟩ :=
      inexhaustible.choose (List.ne_nil_of_length_pos (by omega : 0 < lesson.candidateRooms.length)) source
    exact ⟨_, after, run_bind_ok.2 ⟨room, after, chosen, rfl⟩⟩
  · split
    · rename_i teachers
      obtain ⟨teacher, after, chosen⟩ := inexhaustible.choose
        (List.ne_nil_of_length_pos (by omega : 0 < lesson.candidateTeachers.length)) source
      exact ⟨_, after, run_bind_ok.2 ⟨teacher, after, chosen, rfl⟩⟩
    · split
      · rename_i others
        have someLessons : List.range timetable.lessons.length ≠ [] :=
          List.ne_nil_of_length_pos (by rw [List.length_range]; omega)
        obtain ⟨other, after, chosen⟩ := inexhaustible.choose someLessons source
        exact ⟨_, after, run_bind_ok.2 ⟨other, after, chosen, rfl⟩⟩
      · obtain ⟨slot, after, chosen⟩ := inexhaustible.choose someSlots source
        exact ⟨_, after, run_bind_ok.2 ⟨slot, after, chosen, rfl⟩⟩

theorem select_succeeds (inexhaustible : Inexhaustible Source) (slots : timetable.HasSlots)
    (source : Source) :
    ∃ move after, (select timetable).run source = .ok move after := by
  by_cases noLessons : timetable.lessons = []
  · refine ⟨none, source, ?_⟩
    unfold select
    rw [noLessons]
    rfl
  · have someLessons : timetable.lessons.zipIdx ≠ [] := by simpa using noLessons
    obtain ⟨⟨lesson, position⟩, afterLesson, chosen⟩ := inexhaustible.choose someLessons source
    obtain ⟨kind, afterKind, kindDrawn⟩ := MoveKind.draw_succeeds inexhaustible afterLesson
    obtain ⟨move, after, picked⟩ :=
      pick_succeeds inexhaustible (slots noLessons) position lesson kind afterKind
    refine ⟨if move.isDoable timetable then some move else none, after, ?_⟩
    unfold select
    rw [if_neg (by simpa using noLessons)]
    exact run_bind_ok.2 ⟨_, afterLesson, chosen,
      run_bind_ok.2 ⟨kind, afterKind, kindDrawn, run_bind_ok.2 ⟨move, after, picked, rfl⟩⟩⟩

omit [RandomSource Source] in
theorem perform_succeeds {director : Director} {move : Move} (offered : move.Offered timetable)
    (working : director.timetable.isFinal = false) : ∃ moved, move.perform director = .ok moved := by
  cases offered with
  | slot position slot =>
      rw [perform_of_setting]
      exact Director.change_of_working position working rfl
  | room position lesson found room =>
      rw [perform_of_setting]
      exact Director.change_of_working position working rfl
  | teacher position lesson found teacher =>
      rw [perform_of_setting]
      exact Director.change_of_working position working rfl
  | swap first second => exact perform_swap_of_working first second working

end Move

end Picking

namespace Acceptor

/-- An acceptor as the settings make it, at any time of a search: the history holds as many scores as
its size says, and the next cell is one of them. -/
inductive Serves (settings : AcceptorSettings) : Acceptor → Prop
  | hillClimbing (kind : settings.kind = .hillClimbing) : Serves settings .hillClimbing
  | lateAcceptance {size : Nat} {cells : Array Score} {next : Nat}
      (kind : settings.kind = .lateAcceptance) (full : cells.size = size) (within : next < size) :
      Serves settings (.lateAcceptance size cells next)
  | simulatedAnnealing {start cooling temperature : Float}
      (kind : settings.kind = .simulatedAnnealing) :
      Serves settings (.simulatedAnnealing start cooling settings.hardWeight temperature)

/-- Simulated annealing has to weigh a loss for which there is no number. -/
structure LossTooGreat (settings : AcceptorSettings) (current candidate : Score) : Prop where
  kind : settings.kind = .simulatedAnnealing
  worse : candidate < current
  loses : 0 < flatten settings.hardWeight current - flatten settings.hardWeight candidate
  noNumber : Number.ofInt?
    (-(flatten settings.hardWeight current - flatten settings.hardWeight candidate)) = none

variable {settings : AcceptorSettings} {acceptor ready : Acceptor}

theorem serves_of_started {score : Score} (made : ofSettings settings = .ok acceptor)
    (began : acceptor.started score = .ok ready) : ready.Serves settings := by
  unfold ofSettings at made
  split at made
  · rename_i kind
    unfold lateAcceptanceOf at made
    split at made
    · cases made
    · rename_i notEmpty
      obtain rfl := Except.ok.inj made
      unfold started at began
      dsimp only at began
      split at began
      · cases began
      · obtain rfl := Except.ok.inj began
        exact .lateAcceptance kind Array.size_replicate (by omega)
  · rename_i kind
    obtain rfl := Except.ok.inj made
    obtain rfl := Except.ok.inj began
    exact .simulatedAnnealing kind
  · rename_i kind
    obtain rfl := Except.ok.inj made
    obtain rfl := Except.ok.inj began
    exact .hillClimbing kind

theorem Serves.step_ended (serves : acceptor.Serves settings) (current : Score) :
    ∃ after, acceptor.stepEnded current = .ok after ∧ after.Serves settings := by
  cases serves with
  | hillClimbing kind => exact ⟨_, rfl, .hillClimbing kind⟩
  | lateAcceptance kind full within =>
      refine ⟨_, if_pos (full ▸ within), .lateAcceptance kind ?_ (Nat.mod_lt _ (Nat.zero_lt_of_lt within))⟩
      rw [Array.size_setIfInBounds, full]
  | simulatedAnnealing kind => exact ⟨_, rfl, .simulatedAnnealing kind⟩

theorem Serves.accepts_of_loss_too_great (serves : acceptor.Serves settings)
    (inexhaustible : Inexhaustible Source) {current candidate : Score}
    (tooGreat : LossTooGreat settings current candidate) (source : Source) :
    ∃ after, (acceptor.accepts current candidate).run source = .error .beyondNumbers after := by
  have kind := tooGreat.kind
  unfold accepts
  rw [if_neg (not_le.2 tooGreat.worse)]
  cases serves with
  | hillClimbing other => rw [kind] at other; cases other
  | lateAcceptance other => rw [kind] at other; cases other
  | @simulatedAnnealing start cooling temperature =>
      obtain ⟨drawn, after, drew⟩ := inexhaustible.fraction source
      refine ⟨after, ?_⟩
      dsimp only
      rw [if_neg (not_le.2 tooGreat.loses), EStateM.run_bind, drew]
      simp only [chance?, tooGreat.noNumber, Option.map_none]
      rfl

/-- An acceptor answers, unless the loss that it has to weigh is too great. -/
theorem Serves.accepts_succeeds (serves : acceptor.Serves settings)
    (inexhaustible : Inexhaustible Source) {current candidate : Score}
    (bearable : ¬ LossTooGreat settings current candidate) (source : Source) :
    ∃ answer after, (acceptor.accepts current candidate).run source = .ok answer after := by
  by_cases atLeast : current ≤ candidate
  · exact ⟨true, source, accepts_of_le acceptor atLeast source⟩
  unfold accepts
  rw [if_neg atLeast]
  cases serves with
  | hillClimbing => exact ⟨_, _, rfl⟩
  | @lateAcceptance size cells next kind full within =>
      obtain ⟨past, found⟩ : ∃ past, cells[next]? = some past :=
        ⟨_, Array.getElem?_eq_getElem (full ▸ within)⟩
      simp only [found]
      exact ⟨_, _, rfl⟩
  | @simulatedAnnealing start cooling temperature kind =>
      dsimp only
      split
      · exact ⟨_, _, rfl⟩
      · rename_i loses
        obtain ⟨drawn, after, drew⟩ := inexhaustible.fraction source
        cases number : Number.ofInt?
            (-(flatten settings.hardWeight current - flatten settings.hardWeight candidate)) with
        | some value =>
            refine ⟨decide (drawn < (value / temperature).exp), after,
              run_bind_ok.2 ⟨drawn, after, drew, ?_⟩⟩
            simp only [chance?, number, Option.map_some]
            rfl
        | none => exact absurd ⟨kind, not_le.1 atLeast, not_le.1 loses, number⟩ bearable

end Acceptor

namespace LocalSearch

variable {settings : AcceptorSettings} {search : LocalSearch Source} {base : Timetable}
  {weights : Weights}

omit [RandomSource Source] in
theorem end_round_succeeds (serves : search.acceptor.Serves settings) :
    ∃ next, search.endRound = .ok next ∧ next.acceptor.Serves settings := by
  obtain ⟨acceptor, ended, after⟩ := serves.step_ended search.current
  exact ⟨_, bind_ok.2 ⟨acceptor, ended, rfl⟩, after⟩

/-- A move is tried to its end, unless its loss is too great to be weighed. -/
theorem try_move_succeeds (inexhaustible : Inexhaustible Source)
    (serves : search.acceptor.Serves settings) {move : Move} {moved : Director}
    (offered : move.Offered search.director.timetable)
    (performed : move.perform search.director = .ok moved)
    (bearable : ¬ Acceptor.LossTooGreat settings search.current moved.score) :
    ∃ tried, search.tryMove move = .ok tried ∧ tried.acceptor = search.acceptor := by
  obtain ⟨answer, after, answered⟩ := serves.accepts_succeeds inexhaustible bearable search.source
  cases answer with
  | true =>
      refine ⟨{ search with source := after }.keep moved,
        bind_ok.2 ⟨moved, performed, ?_⟩, keep_acceptor _ moved⟩
      rw [answered]
      rfl
  | false =>
      obtain ⟨back, undone, -⟩ := Move.inverse_undoes offered.recalls performed
      refine ⟨{ search with source := after, director := back },
        bind_ok.2 ⟨moved, performed, ?_⟩, rfl⟩
      rw [answered]
      exact bind_ok.2 ⟨back, undone, rfl⟩

/-- The loss that the next round has to weigh is too great. -/
def Overflows (settings : AcceptorSettings) (search : LocalSearch Source) : Prop :=
  ∃ score, search.candidate? = some score ∧ Acceptor.LossTooGreat settings search.current score

theorem round_succeeds (inexhaustible : Inexhaustible Source)
    (serves : search.acceptor.Serves settings)
    (working : search.director.timetable.isFinal = false)
    (slots : search.director.timetable.HasSlots) (bearable : ¬ search.Overflows settings) :
    ∃ next, search.round = .ok next ∧ next.acceptor.Serves settings := by
  obtain ⟨move, source, selected⟩ := Move.select_succeeds inexhaustible slots search.source
  have counted : (search.counted source).acceptor.Serves settings := serves
  cases move with
  | none =>
      obtain ⟨next, ended, after⟩ := end_round_succeeds counted
      refine ⟨next, ?_, after⟩
      unfold round
      rw [selected]
      exact bind_ok.2 ⟨_, rfl, ended⟩
  | some move =>
      have offered := (Move.select_some selected).1
      obtain ⟨moved, performed⟩ := Move.perform_succeeds offered working
      obtain ⟨tried, tries, same⟩ := try_move_succeeds inexhaustible counted offered performed
        fun tooGreat => bearable ⟨moved.score, candidate_of_selected selected performed, tooGreat⟩
      rw [← same] at counted
      obtain ⟨next, ended, after⟩ := end_round_succeeds counted
      refine ⟨next, ?_, after⟩
      unfold round
      rw [selected]
      exact bind_ok.2 ⟨tried, tries, ended⟩

/-- A loss that is too great to be weighed ends the search in the middle of its round. -/
theorem round_of_overflow (inexhaustible : Inexhaustible Source)
    (serves : search.acceptor.Serves settings) (overflows : search.Overflows settings) :
    search.round = .error .beyondNumbers := by
  obtain ⟨score, candidate, tooGreat⟩ := overflows
  unfold candidate? at candidate
  split at candidate
  · rename_i move between selected
    split at candidate
    · rename_i moved performed
      obtain rfl := Option.some.inj candidate
      obtain ⟨after, failed⟩ := serves.accepts_of_loss_too_great inexhaustible tooGreat between
      have tries : (search.counted between).tryMove move = .error .beyondNumbers := by
        simp only [tryMove, counted, performed, bind, Except.bind, failed]
        rfl
      unfold round
      rw [selected]
      change (search.counted between).tryMove move >>= endRound = _
      rw [tries]
      rfl
    · cases candidate
  · cases candidate

end LocalSearch

end SchoolTimetable
