import SchoolTimetable.Proofs.Record.Settings
import SchoolTimetable.Proofs.Search.Counters
import SchoolTimetable.Proofs.Search.Outset

/-!
How a solve ends. With a limit on its moves it comes to its end in the steps that it is given, and there
it has a result with the best placements, unless a number was too great: the seed for placing all lessons
at once, the size of a history, or a loss that simulated annealing had to weigh.
-/

namespace SchoolTimetable

namespace Solver

variable {Source : Type} [RandomSource Source]

/-- The numbers that are too great for a solve, with the fault that it fails by. A loss is that of a
round that the solve comes to. -/
inductive Overflows (start : Solver Source) : PlanningFault → Prop
  | seed (refused : SeedRefused start.config start.base) : Overflows start .seedRange
  | history (taken : ¬ SeedRefused start.config start.base)
      (tooLong : HistoryTooLong start.config.acceptor) :
      Overflows start (.historyTooLarge start.config.acceptor.historySize.toNat)
  | loss {count : Nat} {search : LocalSearch Source}
      (stage : (advance^[count] start).stage = .searching search)
      (continues : ((advance^[count] start).stopReason search).1 = none)
      (overflows : search.Overflows start.config.acceptor) : Overflows start .beyondNumbers

def stepsLeft (rounds : Nat) (solver : Solver Source) : Nat :=
  match solver.stage with
  | .idle _ => rounds + 3
  | .constructed .. => rounds + 2
  | .searching search => rounds - search.evaluated + 1
  | .terminated _ | .failed .. => 0

theorem search_on_of_ok {solver : Solver Source} {search next : LocalSearch Source}
    (round : search.round = .ok next) : (solver.searchOn search).stage = .searching next := by
  simp only [searchOn, round]

theorem search_on_of_error {solver : Solver Source} {search : LocalSearch Source}
    {fault : PlanningFault} (failed : search.round = .error fault) :
    (solver.searchOn search).stage = .failed .localSearch fault := by
  simp only [searchOn, failed]

theorem Run.iterate {start solver : Solver Source} {scores : List Score}
    (run : Run start scores solver) (count : Nat) :
    ∃ all, Run start all (Solver.advance^[count] solver) := by
  induction count with
  | zero => exact ⟨scores, run⟩
  | succ count ih =>
      obtain ⟨all, before⟩ := ih
      rw [Function.iterate_succ_apply']
      exact ⟨_, before.advance⟩

section Bounded

variable {placer : ExactPlacer} {timetable : Timetable} {config : Config} {clock : Clock}
  {source : Source} {problem : Problem} {warnings : List WorkloadWarning}
  {scores : List Score} {solver : Solver Source}

theorem steps_left_advance (assembled : problem.assemble config = .ok (timetable, warnings))
    (limited : LimitsMoves config.limits)
    (run : Run (ofTimetableWith placer timetable config clock source) scores solver)
    (goesOn : solver.isOver = false) :
    stepsLeft (roundBound config.limits timetable) solver.advance <
      stepsLeft (roundBound config.limits timetable) solver := by
  have later := run.advance
  have advances := solver.advances
  generalize solver.advance = next at advances later ⊢
  cases advances with
  | construct stage => simp [stepsLeft, stage]
  | constructFailed stage => simp [stepsLeft, stage]
  | start stage started =>
      obtain ⟨acceptor, -, rest⟩ := bind_ok.1 started
      obtain ⟨ready, -, same⟩ := bind_ok.1 rest
      obtain rfl := Except.ok.inj same
      simp [stepsLeft, stage]
  | startFailed stage => simp [stepsLeft, stage]
  | @stop search reason stage =>
      have ended : stepsLeft (roundBound config.limits timetable)
          ({ solver with clock := (solver.stopReason search).2 }.finish search reason) = 0 := by
        unfold finish
        split <;> rfl
      rw [ended]
      simp [stepsLeft, stage]
  | @search search stage =>
      cases round : search.round with
      | error fault => simp [stepsLeft, stage, searchOn, round]
      | ok next =>
          have counted := (LocalSearch.counts_of_round round).1
          have bounded := later.evaluated_le_round_bound assembled limited (search_on_of_ok round)
          simp only [stepsLeft, stage, searchOn, round]
          omega
  | rest isOver =>
      rw [goesOn] at isOver
      cases isOver

omit [RandomSource Source] in
theorem steps_left_le (rounds : Nat) (solver : Solver Source) : stepsLeft rounds solver ≤ rounds + 3 := by
  unfold stepsLeft
  split <;> omega

/-- With enough steps a solve goes on until it is over or has come to what it was to go on for. -/
theorem ends_within (assembled : problem.assemble config = .ok (timetable, warnings))
    (limited : LimitsMoves config.limits)
    (run : Run (ofTimetableWith placer timetable config clock source) scores solver)
    (condition : Solver Source → Bool) {steps : Nat}
    (enough : stepsLeft (roundBound config.limits timetable) solver ≤ steps) :
    ∃ count, advanceWhile condition steps solver = advance^[count] solver ∧
      ((advance^[count] solver).isOver = true ∨ condition (advance^[count] solver) = false) := by
  induction steps generalizing scores solver with
  | zero =>
      have isOver : solver.isOver = true := by
        unfold stepsLeft at enough
        unfold isOver
        split at enough <;> simp_all
      refine ⟨0, ?_, .inl isOver⟩
      simp [advanceWhile, isOver]
  | succ steps ih =>
      cases isOver : solver.isOver with
      | true =>
          refine ⟨0, ?_, .inl isOver⟩
          simp [advanceWhile, isOver]
      | false =>
          cases wanted : condition solver with
          | false =>
              refine ⟨0, ?_, .inr wanted⟩
              simp [advanceWhile, wanted]
          | true =>
              have fewer := steps_left_advance assembled limited run isOver
              obtain ⟨count, same, ended⟩ := ih run.advance (by omega)
              refine ⟨count + 1, ?_, ?_⟩
              · simpa [advanceWhile, isOver, wanted] using same
              · exact ended

/-- A solve with a limit on its moves comes to its end in the steps that it is given. -/
theorem run_to_end_ends (placer : ExactPlacer) (clock : Clock) (source : Source)
    (assembled : problem.assemble config = .ok (timetable, warnings))
    (limited : LimitsMoves config.limits) :
    ∃ count, (ofTimetableWith placer timetable config clock source).runToEnd =
        advance^[count] (ofTimetableWith placer timetable config clock source) ∧
      (ofTimetableWith placer timetable config clock source).runToEnd.isOver = true := by
  have enough : (ofTimetableWith placer timetable config clock source).stepBound =
      roundBound config.limits timetable + 4 := step_bound_of_limits limited
  have idle : stepsLeft (roundBound config.limits timetable)
      (ofTimetableWith placer timetable config clock source) ≤
        (ofTimetableWith placer timetable config clock source).stepBound := by
    rw [enough]
    exact Nat.le_succ _
  obtain ⟨count, same, ended⟩ := ends_within assembled limited .start (fun _ => true) idle
  refine ⟨count, same, ?_⟩
  rw [runToEnd, same]
  exact ended.resolve_right (by simp)

end Bounded

section Enduring

/-- Whatever a solve has come to when it was over, that it has come to at any later time. -/
theorem iterate_of_over {solver : Solver Source} {count later : Nat}
    (isOver : (advance^[count] solver).isOver = true) (after : count ≤ later) :
    advance^[later] solver = advance^[count] solver := by
  obtain ⟨more, rfl⟩ := Nat.exists_eq_add_of_le after
  rw [Nat.add_comm, Function.iterate_add_apply]
  exact Function.iterate_fixed (advance_of_over isOver) more

theorem iterate_of_both_over {solver : Solver Source} {first second : Nat}
    (firstOver : (advance^[first] solver).isOver = true)
    (secondOver : (advance^[second] solver).isOver = true) :
    advance^[first] solver = advance^[second] solver := by
  rcases Nat.le_total first second with before | after
  · exact (iterate_of_over firstOver before).symm
  · exact iterate_of_over secondOver after

/-- A solve that is over has failed exactly by the fault that it comes to at any time. -/
theorem failed_iff_comes_to {solver : Solver Source} {count : Nat}
    (isOver : (advance^[count] solver).isOver = true) (fault : PlanningFault) :
    (∃ phase, (advance^[count] solver).stage = .failed phase fault) ↔
      ∃ later phase, (advance^[later] solver).stage = .failed phase fault := by
  constructor
  · rintro ⟨phase, stage⟩
    exact ⟨count, phase, stage⟩
  · rintro ⟨later, phase, stage⟩
    refine ⟨phase, ?_⟩
    have laterOver : (advance^[later] solver).isOver = true := by simp only [Solver.isOver, stage]
    rw [iterate_of_both_over isOver laterOver]
    exact stage

variable {placer : ExactPlacer} {timetable : Timetable} {config : Config} {clock : Clock}
  {source : Source} {start solver : Solver Source} {scores : List Score}

/-- At all times of a solve the acceptor can be asked, and it has failed only by a number. -/
structure Endures (start solver : Solver Source) : Prop where
  serves : ∀ search, solver.stage = .searching search →
    search.acceptor.Serves start.config.acceptor
  overflows : ∀ phase fault, solver.stage = .failed phase fault → Overflows start fault

theorem Endures.of_result {result : SolveResult} (stage : solver.stage = .terminated result) :
    Endures start solver := by
  refine ⟨?_, ?_⟩
  · intro search same
    rw [stage] at same
    cases same
  · intro phase fault same
    rw [stage] at same
    cases same

theorem Endures.of_fault {phase : SolvePhase} {fault : PlanningFault}
    (stage : solver.stage = .failed phase fault) (overflows : Overflows start fault) :
    Endures start solver := by
  refine ⟨?_, ?_⟩
  · intro search same
    rw [stage] at same
    cases same
  · intro phase fault same
    rw [stage] at same
    obtain ⟨-, rfl⟩ := SolveStage.failed.inj same
    exact overflows

theorem Endures.of_search {search : LocalSearch Source} (stage : solver.stage = .searching search)
    (serves : search.acceptor.Serves start.config.acceptor) : Endures start solver := by
  refine ⟨?_, ?_⟩
  · intro other same
    rw [stage] at same
    obtain rfl := SolveStage.searching.inj same
    exact serves
  · intro phase fault same
    rw [stage] at same
    cases same

structure Equipped (Source : Type) [RandomSource Source] (timetable : Timetable) (config : Config) :
    Prop where
  inexhaustible : Inexhaustible Source
  history : 1 ≤ config.acceptor.historySize
  working : timetable.isFinal = false
  slots : timetable.HasSlots

/-- Each step of a solve that has failed by nothing else leads on or comes to a number that is too great. -/
theorem Equipped.endures_advance (equipped : Equipped Source timetable config) {count : Nat}
    (run : Run (ofTimetableWith placer timetable config clock source) scores solver)
    (later : advance^[count] (ofTimetableWith placer timetable config clock source) = solver)
    (endures : Endures (ofTimetableWith placer timetable config clock source) solver) :
    Endures (ofTimetableWith placer timetable config clock source) solver.advance := by
  have accounts := run.accounts
  have advances := solver.advances
  generalize solver.advance = next at advances ⊢
  cases advances with
  | construct => exact ⟨fun _ same => (nomatch same), fun _ _ same => (nomatch same)⟩
  | constructFailed stage failed =>
      rw [accounts.samePlacer, accounts.sameConfig, accounts.sameBase] at failed
      obtain ⟨refused, rfl⟩ := construct_fails equipped.working equipped.slots failed
      exact .of_fault rfl (.seed refused)
  | start stage started =>
      rw [accounts.sameConfig] at started
      exact .of_search rfl (serves_of_start started)
  | startFailed stage failed =>
      rw [accounts.sameConfig] at failed
      obtain ⟨tooLong, rfl⟩ := start_fails equipped.history failed
      -- Construction has come to its end, so its seed was taken.
      have taken : ¬ SeedRefused config timetable := by
        intro refused
        have done := accounts.constructed stage
        rw [construct_of_seed_refused placer refused] at done
        cases done
      exact .of_fault rfl (.history taken tooLong)
  | @stop search reason stage =>
      obtain ⟨result, ended⟩ := finish_terminates
        { solver with clock := (solver.stopReason search).2 } (accounts.sound stage).1
        equipped.working reason
      exact .of_result ended
  | @search search stage continues =>
      have arranges := (accounts.sound stage).1.tracks.arranges
      have serves := endures.serves search stage
      by_cases overflows : search.Overflows config.acceptor
      · have failed := LocalSearch.round_of_overflow equipped.inexhaustible serves overflows
        subst later
        exact .of_fault (search_on_of_error failed) (.loss stage continues overflows)
      · obtain ⟨after, round, still⟩ := LocalSearch.round_succeeds equipped.inexhaustible serves
          (arranges.isFinal.trans equipped.working) (arranges.hasSlots equipped.slots) overflows
        exact .of_search (search_on_of_ok round) still
  | rest isOver => exact endures

theorem Equipped.endures_iterate (equipped : Equipped Source timetable config) (count : Nat) :
    Endures (ofTimetableWith placer timetable config clock source)
      (advance^[count] (ofTimetableWith placer timetable config clock source)) := by
  induction count with
  | zero => exact ⟨fun _ same => (nomatch same), fun _ _ same => (nomatch same)⟩
  | succ count ih =>
      have begun : Run (ofTimetableWith placer timetable config clock source) []
        (ofTimetableWith placer timetable config clock source) := .start
      obtain ⟨scores, run⟩ := begun.iterate count
      rw [Function.iterate_succ_apply']
      exact equipped.endures_advance run rfl ih

theorem Equipped.fails_iff_overflows (equipped : Equipped Source timetable config)
    (fault : PlanningFault) :
    (∃ count phase, (advance^[count] (ofTimetableWith placer timetable config clock source)).stage =
        .failed phase fault) ↔
      Overflows (ofTimetableWith placer timetable config clock source) fault := by
  constructor
  · rintro ⟨count, phase, stage⟩
    exact (equipped.endures_iterate count).overflows phase fault stage
  · intro overflows
    cases overflows with
    | seed refused =>
        refine ⟨1, .constructing, ?_⟩
        have failed := construct_of_seed_refused placer refused
        change (ofTimetableWith placer timetable config clock source).advance.stage = _
        simp only [advance, ofTimetableWith] at failed ⊢
        rw [failed]
    | history taken tooLong =>
        refine ⟨2, .localSearch, ?_⟩
        obtain ⟨director, done⟩ :=
          construct_of_seed_taken placer equipped.working equipped.slots taken
        have constructed : (ofTimetableWith placer timetable config clock source).advance.stage =
            .constructed director source := (advance_of_idle rfl done).1
        have sameConfig : (ofTimetableWith placer timetable config clock source).advance.config =
            config := (Run.start.advance).accounts.sameConfig
        have failed := start_of_history_too_long equipped.history tooLong director source
        change (ofTimetableWith placer timetable config clock source).advance.advance.stage = _
        generalize (ofTimetableWith placer timetable config clock source).advance = solver at *
        subst sameConfig
        simp only [advance, constructed, failed]
        rfl
    | @loss count search stage continues overflows =>
        refine ⟨count + 1, .localSearch, ?_⟩
        have serves := (equipped.endures_iterate count).serves search stage
        have failed := LocalSearch.round_of_overflow equipped.inexhaustible serves overflows
        rw [Function.iterate_succ_apply']
        simp only [advance, stage, continues, searchOn, failed]

end Enduring

end Solver

end SchoolTimetable
