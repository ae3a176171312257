import SchoolTimetable.Proofs.Random.Inexhaustible
import SchoolTimetable.Proofs.Score.Arithmetic
import SchoolTimetable.Search.Acceptor

/-!
The memory of late acceptance. Its cells are written in turn and over and over, yet the one that is read is at all
times that of the score as many steps ago as there are cells: of the start, as long as there were not so many steps.
What was asked in between leaves no trace, and a new phase begins with an empty past.
-/

namespace SchoolTimetable

/-- What a search tells its acceptor or asks it. -/
inductive AcceptorCall where
  | phaseStarted (score : Score)
  | isAccepted (current candidate : Score)
  | stepEnded (current : Score)
deriving DecidableEq, Repr

/-- The scores that were told since the phase began: that of its start and those at the ends of its steps. -/
structure PhaseScores where
  start : Score
  ended : List Score
deriving DecidableEq, Repr

namespace PhaseScores

def after (scores : PhaseScores) : AcceptorCall → PhaseScores
  | .phaseStarted score => ⟨score, []⟩
  | .isAccepted _ _ => scores
  | .stepEnded current => ⟨scores.start, scores.ended ++ [current]⟩

/-- The score at the end of a step. Steps are counted from one, and before the first one there is the start. -/
def ofStep (scores : PhaseScores) (step : Int) : Score :=
  if step ≤ 0 then scores.start else scores.ended.getD (step.toNat - 1) scores.start

/-- The scores in the order of time, as if the phase had rested at its start for a number of steps. -/
def padded (scores : PhaseScores) (size : Nat) : List Score :=
  List.replicate size scores.start ++ scores.ended

theorem padded_length (scores : PhaseScores) (size : Nat) :
    (scores.padded size).length = size + scores.ended.length := by
  rw [padded, List.length_append, List.length_replicate]

theorem padded_step_ended (scores : PhaseScores) (size : Nat) (current : Score) :
    (scores.after (.stepEnded current)).padded size = scores.padded size ++ [current] :=
  (List.append_assoc ..).symm

/-- The padded scores are those of the steps, from the one on that was so many steps before the first. -/
theorem padded_at {scores : PhaseScores} {size place : Nat} (within : place < size + scores.ended.length) :
    (scores.padded size)[place]? = some (scores.ofStep (place + 1 - size)) := by
  unfold padded ofStep
  by_cases early : place < size
  · have before : (place + 1 - size : Int) ≤ 0 := by omega
    rw [List.getElem?_append_left (by simpa using early), if_pos before]
    simp [early]
  · have later : ¬ (place + 1 - size : Int) ≤ 0 := by omega
    have position : (place + 1 - size : Int).toNat - 1 = place - size := by omega
    have listed : place - size < scores.ended.length := by omega
    rw [List.getElem?_append_right (by simpa using early), if_neg later, position, List.length_replicate]
    simp [listed]

end PhaseScores

namespace Acceptor

/-- The cells hold the last of the padded scores, and the one to be replaced next is the oldest. -/
structure Remembers (size : Nat) (scores : PhaseScores) (cells : Array Score) (next : Nat) : Prop where
  full : cells.size = size
  turn : next = scores.ended.length % size
  held : ∀ offset < size, cells[(scores.ended.length + offset) % size]? =
    (scores.padded size)[scores.ended.length + offset]?

namespace Remembers

variable {size : Nat} {scores : PhaseScores} {cells : Array Score} {next : Nat}

theorem of_start (size : Nat) (start : Score) :
    Remembers size ⟨start, []⟩ (Array.replicate size start) 0 where
  full := Array.size_replicate
  turn := (Nat.zero_mod size).symm
  held := by
    intro offset within
    simp [PhaseScores.padded, Nat.mod_eq_of_lt within, within]

/-- The oldest score gives way to the newest. Everywhere else the cells are as they were, only that each of
them is one step older. -/
theorem step (remembers : Remembers size scores cells next) (positive : 0 < size) (current : Score) :
    Remembers size (scores.after (.stepEnded current)) (cells.setIfInBounds next current) ((next + 1) % size) where
  full := by rw [Array.size_setIfInBounds, remembers.full]
  turn := by
    rw [remembers.turn, Nat.mod_add_mod]
    simp [PhaseScores.after]
  held := by
    have written : next < cells.size := by
      rw [remembers.full, remembers.turn]
      exact Nat.mod_lt _ positive
    intro offset within
    have count : (scores.after (.stepEnded current)).ended.length + offset =
        scores.ended.length + (offset + 1) := by
      simp [PhaseScores.after]
      omega
    rw [count, PhaseScores.padded_step_ended, remembers.turn]
    rw [remembers.turn] at written
    by_cases newest : offset + 1 = size
    · -- Once around is the cell that was just written, with the score that was just appended.
      have around : (scores.ended.length + (offset + 1)) % size = scores.ended.length % size := by
        rw [newest, Nat.add_mod_right]
      rw [around, Array.getElem?_setIfInBounds_self_of_lt written, List.getElem?_append_right] <;>
        rw [PhaseScores.padded_length] <;> simp [newest, Nat.add_comm]
    · have inside : offset + 1 < size := by omega
      have elsewhere : scores.ended.length % size ≠ (scores.ended.length + (offset + 1)) % size := by
        intro same
        have turned := Nat.sub_mod_eq_zero_of_mod_eq same.symm
        rw [Nat.add_sub_cancel_left, Nat.mod_eq_of_lt inside] at turned
        cases turned
      rw [Array.getElem?_setIfInBounds_ne elsewhere, remembers.held (offset + 1) inside,
        List.getElem?_append_left]
      rw [PhaseScores.padded_length]
      omega

theorem oldest (remembers : Remembers size scores cells next) (positive : 0 < size) :
    cells[next]? = some (scores.ofStep (scores.ended.length + 1 - size)) := by
  have held := remembers.held 0 positive
  rw [Nat.add_zero, PhaseScores.padded_at (by omega)] at held
  rw [remembers.turn]
  exact held

end Remembers

variable {Source : Type} [RandomSource Source]

def afterCall (acceptor : Acceptor) (source : Source) : AcceptorCall → Except PlanningFault (Acceptor × Source)
  | .phaseStarted score => do
      let started ← acceptor.started score
      return (started, source)
  | .isAccepted current candidate =>
      match (acceptor.accepts current candidate).run source with
      | .ok _ after => .ok (acceptor, after)
      | .error fault _ => .error fault
  | .stepEnded current => do
      let next ← acceptor.stepEnded current
      return (next, source)

def afterCalls (acceptor : Acceptor) (source : Source) (calls : List AcceptorCall) :
    Except PlanningFault (Acceptor × Source) :=
  calls.foldlM (fun state call => state.1.afterCall state.2 call) (acceptor, source)

variable {size : Nat} {scores : PhaseScores} {cells : Array Score} {next : Nat}

theorem late_accepts {past : Score} (found : cells[next]? = some past) (current candidate : Score)
    (source : Source) : ((lateAcceptance size cells next).accepts current candidate).run source =
      .ok (decide (current ≤ candidate ∨ past ≤ candidate)) source := by
  unfold accepts
  by_cases atLeast : current ≤ candidate
  · rw [if_pos atLeast]
    simp [atLeast]
  · rw [if_neg atLeast]
    simp [found, atLeast]

/-- A phase begins with cells that all hold its score, unless these are more than a list can have. -/
theorem after_phase_started (fits : size ≤ greatestHistory) (source : Source) (start : Score) :
    (lateAcceptance size cells next).afterCall source (.phaseStarted start) =
      .ok (.lateAcceptance size (Array.replicate size start) 0, source) := by
  have begins : (lateAcceptance size cells next).started start =
      .ok (.lateAcceptance size (Array.replicate size start) 0) := if_neg (Nat.not_lt.2 fits)
  rw [afterCall, begins]
  rfl

/-- No call is refused, and after each of them the cells are those of the scores told so far. -/
theorem Remembers.after_call (remembers : Remembers size scores cells next) (positive : 0 < size)
    (fits : size ≤ greatestHistory) (source : Source) (call : AcceptorCall) :
    ∃ others place, (lateAcceptance size cells next).afterCall source call =
        .ok (.lateAcceptance size others place, source) ∧
      Remembers size (scores.after call) others place := by
  cases call with
  | phaseStarted score => exact ⟨_, _, after_phase_started fits source score, of_start size score⟩
  | isAccepted current candidate =>
      refine ⟨cells, next, ?_, remembers⟩
      rw [afterCall, late_accepts (remembers.oldest positive)]
  | stepEnded current =>
      have inBounds : next < cells.size := by
        rw [remembers.full, remembers.turn]
        exact Nat.mod_lt _ positive
      refine ⟨_, _, ?_, remembers.step positive current⟩
      simp [afterCall, stepEnded, inBounds]

theorem Remembers.after_calls (remembers : Remembers size scores cells next) (positive : 0 < size)
    (fits : size ≤ greatestHistory) (source : Source) (calls : List AcceptorCall) :
    ∃ others place, (lateAcceptance size cells next).afterCalls source calls =
        .ok (.lateAcceptance size others place, source) ∧
      Remembers size (calls.foldl PhaseScores.after scores) others place := by
  induction calls generalizing scores cells next with
  | nil => exact ⟨cells, next, rfl, remembers⟩
  | cons call rest ih =>
      obtain ⟨between, turn, called, reached⟩ := remembers.after_call positive fits source call
      obtain ⟨others, place, done, last⟩ := ih reached
      refine ⟨others, place, ?_, last⟩
      unfold afterCalls
      rw [List.foldlM_cons, called]
      exact done

/-- Late acceptance with any size begins a phase unless no list can have that many scores. From then on no call is
refused, and a move is kept exactly if it does not worsen the score or is at least as good as the score so many
steps ago. Of what was asked in between and of earlier phases nothing is left. -/
theorem late_acceptance_goes_by_past_scores {size : Nat} (positive : 1 ≤ size) (source : Source) :
    ∃ built, lateAcceptanceOf size = .ok built ∧
      (greatestHistory < size → ∀ start, built.started start = .error (.historyTooLarge size)) ∧
      (size ≤ greatestHistory → ∀ (start : Score) (calls : List AcceptorCall),
        let scores := calls.foldl PhaseScores.after ⟨start, []⟩
        ∃ reached, built.afterCalls source (.phaseStarted start :: calls) = .ok (reached, source) ∧
          ∀ current candidate, (reached.accepts current candidate).run source =
            .ok (decide (current ≤ candidate ∨
              scores.ofStep (scores.ended.length + 1 - size) ≤ candidate)) source) := by
  have valid : ¬ (size : Int) < 1 := by omega
  refine ⟨.lateAcceptance size #[] 0, by simp [lateAcceptanceOf, valid], ?_, ?_⟩
  · intro tooLarge start
    simp [started, tooLarge]
  · intro fits start calls scores
    obtain ⟨cells, next, called, remembers⟩ :=
      (Remembers.of_start size start).after_calls positive fits source calls
    refine ⟨.lateAcceptance size cells next, ?_, ?_⟩
    · unfold afterCalls
      rw [List.foldlM_cons, after_phase_started fits]
      exact called
    · exact fun current candidate => late_accepts (remembers.oldest positive) current candidate source

/-- With two cells, after three steps of a second phase, the score is asked for that was left by the second of them. -/
theorem two_cells_go_by_past_scores : ∃ built reached : Acceptor,
    lateAcceptanceOf (2 : Nat) = .ok built ∧ 2 ≤ greatestHistory ∧
      built.afterCalls (Wheel.mk [] 0) [.phaseStarted ⟨-5, 0⟩, .stepEnded ⟨-4, 0⟩, .phaseStarted ⟨0, -10⟩,
        .stepEnded ⟨0, -4⟩, .isAccepted ⟨0, -4⟩ ⟨0, -9⟩, .stepEnded ⟨0, -6⟩, .stepEnded ⟨0, -3⟩] =
          .ok (reached, ⟨[], 0⟩) ∧
      ∀ current candidate, (reached.accepts current candidate).run (Wheel.mk [] 0) =
        .ok (decide (current ≤ candidate ∨ ⟨0, -6⟩ ≤ candidate)) ⟨[], 0⟩ := by
  have fits : 2 ≤ greatestHistory := by decide
  have positive : 1 ≤ 2 := by decide
  obtain ⟨built, made, -, answers⟩ := late_acceptance_goes_by_past_scores positive (Wheel.mk [] 0)
  obtain ⟨reached, called, answer⟩ := answers fits ⟨-5, 0⟩ [.stepEnded ⟨-4, 0⟩, .phaseStarted ⟨0, -10⟩,
    .stepEnded ⟨0, -4⟩, .isAccepted ⟨0, -4⟩ ⟨0, -9⟩, .stepEnded ⟨0, -6⟩, .stepEnded ⟨0, -3⟩]
  exact ⟨built, reached, made, fits, called, answer⟩

end Acceptor

end SchoolTimetable
