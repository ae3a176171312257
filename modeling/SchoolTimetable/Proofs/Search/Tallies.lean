import Mathlib.Data.Set.Card
import SchoolTimetable.Proofs.Search.Histories
import SchoolTimetable.Proofs.Solution.Outcomes

/-!
How many moves a solve evaluates. Without a time limit its counts are exact: a search that stops for a
limit has come just to that limit, and no move is accepted that was not evaluated. A limit on the moves
without improvement limits all moves by the improvements that were published, and of these there are no
more than there are placements of all lessons in their ranges.
-/

namespace SchoolTimetable

def Timetable.assignmentsInRange (timetable : Timetable) : Set Snapshot :=
  { snapshot | snapshot.length = timetable.lessons.length ∧
    ∀ lesson ∈ timetable.lessonsWith snapshot, lesson.InRange timetable.slots }

theorem Timetable.finite_assignments_in_range (timetable : Timetable) :
    timetable.assignmentsInRange.Finite := by
  apply timetable.assignments.toFinset.finite_toSet.subset
  intro snapshot member
  exact List.mem_toFinset.2 (Timetable.mem_assignments member.1 member.2)

theorem LocalSearch.accepted_of_round {Source : Type} [RandomSource Source]
    {search next : LocalSearch Source} (done : search.round = .ok next)
    (atMost : search.accepted ≤ search.evaluated) : next.accepted ≤ next.evaluated := by
  cases round_to_of_round done with
  | idle => exact Nat.le_succ_of_le atMost
  | undone => exact Nat.le_succ_of_le atMost
  | @kept move moved between source acceptor =>
      have kept : ((search.counted source).keep moved).accepted = search.accepted + 1 ∧
          ((search.counted source).keep moved).evaluated = search.evaluated + 1 := by
        unfold keep
        split <;> exact ⟨rfl, rfl⟩
      change ((search.counted source).keep moved).accepted ≤ _
      rw [kept.1]
      exact (Nat.succ_le_succ atMost).trans kept.2.ge

namespace Solver

variable {Source : Type}

def improvements (solver : Solver Source) : List Best := solver.published.dropLast

theorem PublishedFrom.length_eq {timetable : Timetable} {weights : Weights} {constructed : Director}
    {scores : List Score} {solver : Solver Source}
    (log : PublishedFrom timetable weights constructed scores solver.published) :
    solver.published.length = solver.improvements.length + 1 := by
  have some := List.length_pos_iff.2 (List.ne_nil_of_mem log.constructed_listed)
  unfold improvements
  rw [List.length_dropLast]
  omega

theorem PublishedFrom.length_le_in_range {timetable : Timetable} {weights : Weights}
    {constructed : Director} {scores : List Score} {published : List Best}
    (log : PublishedFrom timetable weights constructed scores published)
    (inRange : ∀ best ∈ published, (reported timetable best).InRange) :
    published.length ≤ timetable.assignmentsInRange.ncard := by
  have within : ((published.map (·.snapshot)).toFinset : Set Snapshot) ⊆
      timetable.assignmentsInRange := by
    intro snapshot member
    rcases List.mem_map.1 (List.mem_toFinset.1 member) with ⟨best, listed, rfl⟩
    exact ⟨log.fits best listed, inRange best listed⟩
  calc published.length
      = (published.map (·.snapshot)).length := (List.length_map _).symm
    _ = (published.map (·.snapshot)).toFinset.card :=
        (List.toFinset_card_of_nodup log.nodup_snapshots).symm
    _ = ((published.map (·.snapshot)).toFinset : Set Snapshot).ncard :=
        (Set.ncard_coe_finset _).symm
    _ ≤ timetable.assignmentsInRange.ncard :=
        Set.ncard_le_ncard within timetable.finite_assignments_in_range

/-- Why a search without a time limit stops: it is cancelled, or it has come just to a limit. -/
inductive StopsExactly (limits : Limits) (published : List Best) (result : SolveResult) : Prop
  | cancelled (reason : result.reason = some .cancelled)
  | moves (reason : result.reason = some .moveLimit)
      (exact : limits.moves = some (result.evaluated : Int))
  | unimproved {best : Best} (reason : result.reason = some .unimprovedLimit)
      (latest : published.head? = some best) (score : result.score = best.score)
      (exact : limits.unimprovedMoves = some ((result.evaluated : Int) - best.moves))
      (movesLeft : ∀ limit ∈ limits.moves, (result.evaluated : Int) < limit)

structure Tallied (limits : Limits) (solver : Solver Source) (result : SolveResult) : Prop where
  accepted : result.accepted ≤ result.evaluated
  moves : ∀ limit ∈ limits.moves, (result.evaluated : Int) ≤ limit
  unimproved : ∀ limit ∈ limits.unimprovedMoves,
    (result.evaluated : Int) ≤ limit * (solver.improvements.length + 1)
  stops : StopsExactly limits solver.published result

theorem reached_exactly {limit : Option Int} {count : Nat} (reached : isReached limit count = true)
    (natural : ∀ bound ∈ limit, 0 ≤ bound)
    (within : ∀ bound, limit = some bound → count ≤ bound.toNat) : limit = some (count : Int) := by
  cases limit with
  | none => cases reached
  | some bound =>
      have atLeast : bound ≤ count := of_decide_eq_true reached
      have atMost := within bound rfl
      have nonneg := natural bound rfl
      congr 1
      omega

section Stopping

variable {limits : Limits} {solver : Solver Source} {search : LocalSearch Source}
  {reason : StopReason} {result : SolveResult}

/-- What stops a search has been reached by exactly its counts, as it would have stopped before. -/
theorem stops_exactly (valid : solver.config.limits.Valid)
    (untimed : solver.config.limits.seconds = none)
    (within : WithinLimits solver.config.limits solver.published search)
    (latest : solver.published.head? = some search.best)
    (stopped : (solver.stopReason search).1 = some reason) (ended : result.reason = some reason)
    (evaluated : result.evaluated = search.evaluated) (score : result.score = search.best.score) :
    StopsExactly solver.config.limits solver.published result := by
  rw [stop_reason_untimed untimed] at stopped
  split at stopped
  · rw [← Option.some.inj stopped] at ended
    exact .cancelled ended
  split at stopped
  · rename_i reached
    rw [← Option.some.inj stopped] at ended
    apply StopsExactly.moves ended
    rw [evaluated]
    exact reached_exactly reached valid.moves within.moves
  split at stopped
  · rename_i notReached reached
    rw [← Option.some.inj stopped] at ended
    have natural : ∀ bound ∈ solver.config.limits.unimprovedMoves, 0 ≤ bound :=
      fun bound set => Int.le_of_lt (valid.unimproved bound set)
    have exact := reached_exactly reached natural within.unimproved
    apply StopsExactly.unimproved ended latest score
    · rw [exact, evaluated, within.total]
      congr 1
      omega
    · intro limit set
      rw [Option.mem_def.1 set] at notReached
      rw [evaluated]
      exact not_le.1 fun reached => notReached (decide_eq_true reached)
  · cases stopped

/-- What a search ends with has the counts of the search, and these are within its limits. -/
theorem tallied_of_finish (valid : solver.config.limits.Valid)
    (untimed : solver.config.limits.seconds = none)
    (within : WithinLimits solver.config.limits solver.published search)
    (accepted : search.accepted ≤ search.evaluated)
    (latest : solver.published.head? = some search.best)
    (length : solver.published.length = solver.improvements.length + 1)
    (stopped : (solver.stopReason search).1 = some reason) (clock : Clock)
    (stage : ({ solver with clock := clock }.finish search reason).stage = .terminated result) :
    Tallied solver.config.limits ({ solver with clock := clock }.finish search reason) result := by
  rcases finish_counts stage with ⟨reasoned, evaluated, acceptedSame, score⟩
  have published := (finish_is_over { solver with clock := clock } search reason).2
  have improvements : ({ solver with clock := clock }.finish search reason).improvements =
      solver.improvements := congrArg List.dropLast published
  refine ⟨?_, ?_, ?_, ?_⟩
  · rw [acceptedSame, evaluated]
    exact accepted
  · intro limit set
    rw [evaluated]
    have bounded := within.moves limit set
    have natural := valid.moves limit set
    omega
  · intro limit set
    rw [evaluated, improvements, ← Nat.cast_add_one, ← length]
    have bounded := within.evaluated_le set
    have natural : ((limit.toNat : Nat) : Int) = limit :=
      Int.toNat_of_nonneg (Int.le_of_lt (valid.unimproved limit set))
    rw [← natural]
    exact_mod_cast bounded
  · rw [published]
    exact stops_exactly valid untimed within latest stopped reasoned evaluated score

end Stopping

variable [RandomSource Source] {placer : ExactPlacer} {timetable : Timetable} {config : Config}
  {clock : Clock} {source : Source} {scores : List Score} {solver : Solver Source}

theorem Run.accepted_le
    (run : Run (ofTimetableWith placer timetable config clock source) scores solver) :
    ∀ search, solver.stage = .searching search → search.accepted ≤ search.evaluated := by
  induction run with
  | start => exact fun _ same => nomatch same
  | cancel _ ih => exact ih
  | watch _ _ ih => exact ih
  | @advance scores solver run ih =>
      have advances := solver.advances
      generalize solver.advance = next at advances ⊢
      intro search after
      cases advances with
      | construct => cases after
      | constructFailed => cases after
      | start stage started =>
          rcases bind_ok.1 started with ⟨acceptor, -, rest⟩
          rcases bind_ok.1 rest with ⟨ready, -, same⟩
          rw [← SolveStage.searching.inj after, ← Except.ok.inj same]
      | startFailed => cases after
      | stop => exact absurd after (finish_stage _ _ _ _)
      | @search before stage continues =>
          cases round : before.round with
          | error fault =>
              rw [search_on_of_error round] at after
              cases after
          | ok next =>
              rw [search_on_of_ok round] at after
              rw [← SolveStage.searching.inj after]
              exact LocalSearch.accepted_of_round round (ih before stage)
      | rest => exact ih search after

theorem Run.tallied (valid : config.limits.Valid) (untimed : config.limits.seconds = none)
    (run : Run (ofTimetableWith placer timetable config clock source) scores solver) :
    ∀ result, solver.stage = .terminated result → Tallied config.limits solver result := by
  induction run with
  | start => exact fun _ same => nomatch same
  | cancel _ ih =>
      intro result stage
      have tallied := ih result stage
      exact ⟨tallied.accepted, tallied.moves, tallied.unimproved, tallied.stops⟩
  | watch _ _ ih =>
      intro result stage
      have tallied := ih result stage
      exact ⟨tallied.accepted, tallied.moves, tallied.unimproved, tallied.stops⟩
  | @advance scores solver run ih =>
      have accounts := run.accounts
      have sameConfig := accounts.sameConfig
      have advances := solver.advances
      generalize solver.advance = next at advances ⊢
      intro result after
      cases advances with
      | construct => cases after
      | constructFailed => cases after
      | start => cases after
      | startFailed => cases after
      | @stop search reason stage stopped =>
          -- Until it stops the search is within its limits, and what it publishes last is its best.
          have within := run.within_limits search stage
          have latest := (accounts.sound stage).2
          rcases accounts.log (fun _ idle => nomatch stage.symm.trans idle)
            (fun _ failed => nomatch stage.symm.trans failed) with ⟨constructed, log⟩
          rw [← sameConfig] at valid untimed within ⊢
          exact tallied_of_finish valid untimed within (run.accepted_le search stage) latest
            log.length_eq stopped _ after
      | @search before stage continues =>
          cases round : before.round with
          | error fault =>
              rw [search_on_of_error round] at after
              cases after
          | ok next =>
              rw [search_on_of_ok round] at after
              cases after
      | rest => exact ih result after

/-- What was published after construction, all of it different placements in the ranges. -/
theorem Run.improvements_le
    (completable : ∀ lesson ∈ timetable.lessons, lesson.Completable timetable.slots)
    (run : Run (ofTimetableWith placer timetable config clock source) scores solver) :
    solver.improvements.length ≤ timetable.assignmentsInRange.ncard := by
  have inRange := (run.keepsRanges completable).published
  rcases run.accounts.progress with ⟨-, -, empty⟩ | ⟨constructed, -, log, -⟩
  · unfold improvements
    rw [empty]
    exact Nat.zero_le _
  · have all := log.length_le_in_range inRange
    have first := log.length_eq
    omega

/-- The acceptor of a solve raises: its history is too long to begin with, or it is asked to weigh a loss
that is no number. -/
inductive AcceptorRaises (start : Solver Source) : Prop
  | began (tooLong : HistoryTooLong start.config.acceptor)
  | asked {count : Nat} {search : LocalSearch Source}
      (stage : (advance^[count] start).stage = .searching search)
      (continues : ((advance^[count] start).stopReason search).1 = none)
      (overflows : search.Overflows start.config.acceptor)

theorem raises_of_overflows {start : Solver Source} {fault : PlanningFault}
    (taken : ¬ SeedRefused start.config start.base) (overflows : Overflows start fault) :
    AcceptorRaises start := by
  cases overflows with
  | seed refused => exact absurd refused taken
  | history _ tooLong => exact .began tooLong
  | loss stage continues overflows => exact .asked stage continues overflows

section Settled

variable {document settings : Json} {problem : Problem} {warnings : List WorkloadWarning}

theorem limited_of_untimed (valid : config.limits.Valid) (untimed : config.limits.seconds = none) :
    LimitsMoves config.limits := by
  unfold LimitsMoves
  cases unimproved : config.limits.unimprovedMoves with
  | some limit => exact .inr rfl
  | none => exact .inl (Option.isSome_iff_ne_none.2 (valid.bounded untimed unimproved))

/-- Whatever happens to a solve without a time limit, its search comes to an end if its acceptor does not
raise, and what it ends with is tallied. Each improvement has placements of its own in the ranges. Once
the solve is cancelled, it evaluates no further move and stops for that reason. -/
theorem untimed_solve_counts_exactly (accepted : Problem.read document = .ok problem)
    (configured : Config.read settings = .ok config)
    (assembled : problem.assemble config = .ok (timetable, warnings))
    (untimed : config.limits.seconds = none) (inexhaustible : Inexhaustible Source)
    (placer : ExactPlacer) (clock : Clock) (source : Source) :
    let start := ofTimetableWith placer timetable config clock source
    (¬ SeedRefused config timetable → ¬ AcceptorRaises start →
      (∃ result ended, solve.run start = .ok result ended ∧ Tallied config.limits ended result) ∧
      ∀ history : List Happening,
        roundBound config.limits timetable + 3 ≤ history.countP (·.isStep) →
        ∃ result, (start.after history).stage = .terminated result) ∧
    ∀ history : List Happening,
      (start.after history).improvements.length ≤ timetable.assignmentsInRange.ncard ∧
      (∀ result, (start.after history).stage = .terminated result →
        Tallied config.limits (start.after history) result) ∧
      ((start.after history).isOver = false → ∀ later : List Happening,
        Stopping (start.after history).evaluated ((start.after history).cancel.after later) ∧
        (3 ≤ later.countP (·.isStep) →
          ((start.after history).cancel.after later).isOver = true)) := by
  intro start
  have valid := (Config.valid_of_read configured).limits
  have limited := limited_of_untimed valid untimed
  have equipped := equipped_of_read accepted configured assembled inexhaustible
  have begun : Run start [] start := .start
  constructor
  · intro taken quiet
    refine ⟨?_, ?_⟩
    · rcases equipped.solve_ends placer clock source assembled limited with
        ⟨result, ended, solved, -, -⟩ | ⟨fault, ended, -, faults⟩
      · rcases run_of_solve solved with ⟨stage, scores, run⟩
        exact ⟨result, ended, solved, run.tallied valid untimed result stage⟩
      · have overflows := (faults fault).2 rfl
        exact absurd (raises_of_overflows taken overflows) quiet
    · intro history enough
      rcases begun.after history with ⟨scores, run⟩
      have isOver := over_within_limits assembled limited begun enough
      rcases ended_of_over isOver with ended | ⟨phase, fault, failed⟩
      · exact ended
      · have overflows := equipped.overflows_of_failed untimed run failed
        exact absurd (raises_of_overflows taken overflows) quiet
  · intro history
    rcases begun.after history with ⟨scores, run⟩
    refine ⟨?_, run.tallied valid untimed, ?_⟩
    · have completable : ∀ lesson ∈ timetable.lessons, lesson.Completable timetable.slots :=
        fun lesson listed => (Problem.completable_of_mem_assembled assembled listed).1
      exact run.improvements_le completable
    · intro goesOn later
      have stopping := stopping_of_cancel goesOn
      exact ⟨stopping.after equipped.working run.cancel later, over_after_cancel _⟩

end Settled

end Solver

namespace MusicMorning

open Solver

theorem acceptor_is_quiet : ¬ AcceptorRaises (start config) := by
  intro raises
  cases raises with
  | began tooLong => exact absurd tooLong.tooLong (by decide)
  | asked _ _ overflows =>
      obtain ⟨_, _, tooGreat⟩ := overflows
      exact nomatch tooGreat.kind

/-- The solve to its end, and cancelled after its second move. -/
theorem three_moves_are_tallied : ∃ warnings result ended,
    Problem.read problem.write = .ok problem ∧ Config.read settingsDocument = .ok config ∧
    problem.assemble config = .ok (timetable, warnings) ∧ config.limits.seconds = none ∧ Inexhaustible Wheel ∧
    solve.run (start config) = .ok result ended ∧ Tallied config.limits ended result ∧ result.evaluated = 3 ∧
    result.accepted = 2 ∧
    let stopped := (start config).after (List.replicate 4 .step)
    stopped.improvements.length ≤ timetable.assignmentsInRange.ncard ∧ stopped.isOver = false ∧
      Stopping stopped.evaluated (stopped.cancel.after (List.replicate 3 .step)) ∧
      (stopped.cancel.after (List.replicate 3 .step)).isOver = true := by
  obtain ⟨warnings, assembled⟩ := config_assembles
  have taken : ¬ SeedRefused config timetable := fun refused => nomatch refused.exact
  have counts := untimed_solve_counts_exactly document_read settings_read assembled rfl Wheel.inexhaustible
    PlacementModel.placer .still draws
  obtain ⟨result, ended, solved, tallied⟩ := (counts.1 taken acceptor_is_quiet).1
  obtain ⟨seen, returned, -, -, evaluated, accepted⟩ := solves
  obtain ⟨rfl, rfl⟩ := EStateM.Result.ok.inj (returned.symm.trans solved)
  obtain ⟨search, stage, -⟩ := searching_of_view 3 (congrArg View.current (view_of_course 3 rfl))
  have goesOn : ((start config).after (List.replicate 4 .step)).isOver = false := by simp only [isOver, stage]
  obtain ⟨improved, -, stopping⟩ := counts.2 (List.replicate 4 .step)
  have stops := stopping goesOn (List.replicate 3 .step)
  exact ⟨warnings, _, _, document_read, settings_read, assembled, rfl, Wheel.inexhaustible, solved, tallied, evaluated,
    accepted, improved, goesOn, stops.1, stops.2 (by decide)⟩

end MusicMorning

end SchoolTimetable
