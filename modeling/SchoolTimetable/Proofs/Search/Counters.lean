import SchoolTimetable.Proofs.Search.Assignments
import SchoolTimetable.Proofs.Solution.Resolution

/-!
The counts of a search. All moves that were evaluated are those until the best placements were found and
those since, so a limit on the moves without improvement also limits all moves, by the number of
improvements. A solve with a limit on its moves therefore takes no more steps than it is given.
-/

namespace SchoolTimetable

namespace LocalSearch

variable {Source : Type} [RandomSource Source] {search next : LocalSearch Source}

/-- A round counts one move. It is one without improvement, or the last one until the best placements. -/
theorem counts_of_round (done : search.round = .ok next) :
    next.evaluated = search.evaluated + 1 ∧
      (next.best = search.best ∧ next.unimproved = search.unimproved + 1 ∨
        search.best.score < next.best.score ∧ next.best.moves = search.evaluated + 1 ∧
          next.unimproved = 0) := by
  cases round_to_of_round done with
  | idle => exact ⟨rfl, .inl ⟨rfl, rfl⟩⟩
  | undone => exact ⟨rfl, .inl ⟨rfl, rfl⟩⟩
  | @kept move moved between source acceptor =>
      by_cases better : search.best.score < moved.score
      · have keeps : (search.counted source).keep moved = { search.counted source with
            director := moved
            current := moved.score
            accepted := search.accepted + 1
            best := ⟨moved.score, moved.timetable.snapshot, search.evaluated + 1⟩
            unimproved := 0 } := if_pos better
        rw [keeps]
        exact ⟨rfl, .inr ⟨better, rfl, rfl⟩⟩
      · have keeps : (search.counted source).keep moved = { search.counted source with
            director := moved
            current := moved.score
            accepted := search.accepted + 1 } := if_neg better
        rw [keeps]
        exact ⟨rfl, .inl ⟨rfl, rfl⟩⟩

end LocalSearch

namespace Solver

variable {Source : Type}

/-- The counts of a search within its limits, after as many improvements as were published. -/
structure WithinLimits (limits : Limits) (published : List Best) (search : LocalSearch Source) :
    Prop where
  total : search.evaluated = search.best.moves + search.unimproved
  moves : ∀ bound, limits.moves = some bound → search.evaluated ≤ bound.toNat
  unimproved : ∀ bound, limits.unimprovedMoves = some bound → search.unimproved ≤ bound.toNat
  improved : ∀ bound, limits.unimprovedMoves = some bound →
    search.best.moves + bound.toNat ≤ bound.toNat * published.length

/-- All moves are limited by the improvements and the moves allowed without one. -/
theorem WithinLimits.evaluated_le {limits : Limits} {published : List Best}
    {search : LocalSearch Source} (within : WithinLimits limits published search) {bound : Int}
    (limited : limits.unimprovedMoves = some bound) :
    search.evaluated ≤ bound.toNat * published.length := by
  have unimproved := within.unimproved bound limited
  calc search.evaluated
      = search.best.moves + search.unimproved := within.total
    _ ≤ search.best.moves + bound.toNat := Nat.add_le_add_left unimproved _
    _ ≤ bound.toNat * published.length := within.improved bound limited

theorem not_reached {limit : Option Int} {count : Nat} (notYet : isReached limit count = false)
    {bound : Int} (set : limit = some bound) : count + 1 ≤ bound.toNat := by
  rw [set] at notYet
  have below : ¬ bound ≤ count := of_decide_eq_false notYet
  omega

theorem open_of_continues {solver : Solver Source} {search : LocalSearch Source}
    (continues : (solver.stopReason search).1 = none) :
    solver.cancelled = false ∧ isReached solver.config.limits.moves search.evaluated = false ∧
      isReached solver.config.limits.unimprovedMoves search.unimproved = false := by
  unfold stopReason at continues
  dsimp only at continues
  split at continues
  · cases continues
  · rename_i notCancelled
    split at continues
    · cases continues
    · split at continues
      · cases continues
      · rename_i movesLeft
        split at continues
        · cases continues
        · rename_i unimprovedLeft
          exact ⟨by simpa using notCancelled, by simpa using movesLeft, by simpa using unimprovedLeft⟩

theorem finish_stage (solver : Solver Source) (search other : LocalSearch Source)
    (reason : StopReason) : (solver.finish search reason).stage ≠ .searching other := by
  unfold finish
  split <;> exact fun same => nomatch same

theorem Accounts.log {placer : ExactPlacer} {timetable : Timetable} {config : Config}
    {scores : List Score} {solver : Solver Source}
    (accounts : Accounts placer timetable config scores solver)
    (begun : ∀ source, solver.stage ≠ .idle source)
    (constructs : ∀ fault, solver.stage ≠ .failed .constructing fault) :
    ∃ constructed, PublishedFrom timetable config.weights constructed scores solver.published := by
  rcases accounts.progress with ⟨⟨source, stage⟩ | ⟨fault, stage, -⟩, -⟩ | ⟨constructed, -, log, -⟩
  · exact absurd stage (begun source)
  · exact absurd stage (constructs fault)
  · exact ⟨constructed, log⟩

variable [RandomSource Source] {solver : Solver Source}

section Counting

variable {limits : Limits} {published : List Best} {search next : LocalSearch Source}

omit [RandomSource Source] in
theorem WithinLimits.unimproved_round (within : WithinLimits limits published search)
    (movesLeft : isReached limits.moves search.evaluated = false)
    (unimprovedLeft : isReached limits.unimprovedMoves search.unimproved = false)
    (counted : next.evaluated = search.evaluated + 1) (same : next.best = search.best)
    (unimproved : next.unimproved = search.unimproved + 1) : WithinLimits limits published next where
  total := by
    rw [counted, same, unimproved, within.total]
    omega
  moves := by
    intro bound limited
    rw [counted]
    exact not_reached movesLeft limited
  unimproved := by
    intro bound limited
    rw [unimproved]
    exact not_reached unimprovedLeft limited
  improved := by
    intro bound limited
    rw [same]
    exact within.improved bound limited

omit [RandomSource Source] in
/-- An improvement is published, and makes room for as many moves as are allowed without one. -/
theorem WithinLimits.improving_round (within : WithinLimits limits published search)
    (movesLeft : isReached limits.moves search.evaluated = false)
    (unimprovedLeft : isReached limits.unimprovedMoves search.unimproved = false)
    (counted : next.evaluated = search.evaluated + 1)
    (found : next.best.moves = search.evaluated + 1) (fresh : next.unimproved = 0) :
    WithinLimits limits (next.best :: published) next where
  total := by rw [counted, found, fresh]
  moves := by
    intro bound limited
    rw [counted]
    exact not_reached movesLeft limited
  unimproved := by
    intro bound limited
    rw [fresh]
    exact Nat.zero_le _
  improved := by
    intro bound limited
    have improved := within.improved bound limited
    have unimproved := not_reached unimprovedLeft limited
    have total := within.total
    rw [found, List.length_cons, Nat.mul_succ]
    omega

theorem within_limits_search_on (solver : Solver Source) {other : LocalSearch Source}
    (within : WithinLimits solver.config.limits solver.published search)
    (movesLeft : isReached solver.config.limits.moves search.evaluated = false)
    (unimprovedLeft : isReached solver.config.limits.unimprovedMoves search.unimproved = false)
    (stage : (solver.searchOn search).stage = .searching other) :
    WithinLimits solver.config.limits (solver.searchOn search).published other := by
  unfold searchOn at stage ⊢
  cases round : search.round with
  | error fault =>
      rw [round] at stage
      cases stage
  | ok next =>
      rw [round] at stage
      obtain rfl := SolveStage.searching.inj stage
      obtain ⟨counted, ⟨same, unimproved⟩ | ⟨better, found, fresh⟩⟩ :=
        LocalSearch.counts_of_round round
      · have notBetter : ¬ search.best.score < next.best.score := by
          rw [same]
          exact lt_irrefl _
        dsimp only
        rw [if_neg notBetter]
        exact within.unimproved_round movesLeft unimprovedLeft counted same unimproved
      · dsimp only
        rw [if_pos better]
        exact within.improving_round movesLeft unimprovedLeft counted found fresh

end Counting

variable {placer : ExactPlacer} {timetable : Timetable} {config : Config} {scores : List Score}
  {clock : Clock} {source : Source}

omit [RandomSource Source] in
theorem within_limits_start {director : Director} {search : LocalSearch Source}
    (started : LocalSearch.start config.acceptor director source = .ok search) {limits : Limits}
    {published : List Best} (some : published ≠ []) : WithinLimits limits published search := by
  obtain ⟨acceptor, -, rest⟩ := bind_ok.1 started
  obtain ⟨ready, -, same⟩ := bind_ok.1 rest
  obtain rfl := Except.ok.inj same
  refine ⟨rfl, fun _ _ => Nat.zero_le _, fun _ _ => Nat.zero_le _, ?_⟩
  intro bound _
  have positive : 1 ≤ published.length := List.length_pos_iff.2 some
  calc 0 + bound.toNat = bound.toNat * 1 := by omega
    _ ≤ bound.toNat * published.length := Nat.mul_le_mul_left _ positive

theorem Run.within_limits
    (run : Run (ofTimetableWith placer timetable config clock source) scores solver) :
    ∀ search, solver.stage = .searching search →
      WithinLimits config.limits solver.published search := by
  induction run with
  | start => exact fun _ same => nomatch same
  | cancel _ ih => exact ih
  | watch _ _ ih => exact ih
  | @advance scores solver run ih =>
      have accounts := run.accounts
      have sameConfig := accounts.sameConfig
      have advances := solver.advances
      generalize solver.advance = next at advances ⊢
      intro search after
      cases advances with
      | construct => cases after
      | constructFailed => cases after
      | start stage started =>
          obtain rfl := SolveStage.searching.inj after
          obtain ⟨constructed, log⟩ := accounts.log (fun _ idle => nomatch stage.symm.trans idle)
            (fun _ failed => nomatch stage.symm.trans failed)
          rw [sameConfig] at started
          exact within_limits_start started (List.ne_nil_of_mem log.constructed_listed)
      | startFailed => cases after
      | stop => exact absurd after (finish_stage _ _ _ _)
      | @search before stage continues =>
          obtain ⟨-, movesLeft, unimprovedLeft⟩ := open_of_continues continues
          rw [← sameConfig] at ih ⊢
          let read := { solver with clock := (solver.stopReason before).2 }
          exact within_limits_search_on read (ih before stage) movesLeft unimprovedLeft after
      | rest isOver => exact ih search after

def roundBound (limits : Limits) (timetable : Timetable) : Nat :=
  match limits.moves, limits.unimprovedMoves with
  | some moves, _ => moves.toNat
  | none, some moves => moves.toNat * improvementBound timetable
  | none, none => 0

/-- There is a limit on the moves, or on those without improvement. -/
def LimitsMoves (limits : Limits) : Prop :=
  limits.moves.isSome ∨ limits.unimprovedMoves.isSome

omit [RandomSource Source] in
theorem step_bound_of_limits (limited : LimitsMoves solver.config.limits) :
    solver.stepBound = roundBound solver.config.limits solver.base + 4 := by
  unfold stepBound roundBound
  dsimp only
  unfold LimitsMoves at limited
  cases moves : solver.config.limits.moves with
  | some bound => rfl
  | none =>
      cases unimproved : solver.config.limits.unimprovedMoves with
      | some bound => rfl
      | none => simp [moves, unimproved] at limited

variable {problem : Problem} {warnings : List WorkloadWarning}

theorem Run.evaluated_le_round_bound
    (assembled : problem.assemble config = .ok (timetable, warnings))
    (limited : LimitsMoves config.limits)
    (run : Run (ofTimetableWith placer timetable config clock source) scores solver)
    {search : LocalSearch Source} (stage : solver.stage = .searching search) :
    search.evaluated ≤ roundBound config.limits timetable := by
  have within := run.within_limits search stage
  unfold roundBound
  cases moves : config.limits.moves with
  | some bound => exact within.moves bound moves
  | none =>
      cases unimproved : config.limits.unimprovedMoves with
      | none =>
          unfold LimitsMoves at limited
          simp [moves, unimproved] at limited
      | some bound =>
          have completable : ∀ lesson ∈ timetable.lessons, lesson.Completable timetable.slots :=
            fun lesson listed => (Problem.completable_of_mem_assembled assembled listed).1
          have inRange := (run.keepsRanges completable).published
          obtain ⟨constructed, log⟩ := run.accounts.log (fun _ idle => nomatch stage.symm.trans idle)
            (fun _ failed => nomatch stage.symm.trans failed)
          have improvements : solver.published.length ≤ improvementBound timetable :=
            calc solver.published.length
                ≤ timetable.assignments.toFinset.card := log.length_le_assignments inRange
              _ ≤ timetable.assignments.length := List.toFinset_card_le _
              _ ≤ improvementBound timetable := timetable.assignments_length_le
          calc search.evaluated
              ≤ bound.toNat * solver.published.length := within.evaluated_le unimproved
            _ ≤ bound.toNat * improvementBound timetable := Nat.mul_le_mul_left _ improvements

end Solver

end SchoolTimetable
