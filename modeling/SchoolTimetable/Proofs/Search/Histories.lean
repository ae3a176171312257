import SchoolTimetable.Proofs.Search.Alike

/-!
What can happen to a solve from outside. Watching it changes nothing but its clock, and cancelling it cuts
its search short before the next move. So whatever happens, a solve with a limit on its moves is over
after enough steps of its own, and unless it was cut short it has come where its steps alone would have
taken it.
-/

namespace SchoolTimetable

def Happening.isStep : Happening → Bool
  | .step => true
  | .cancel | .watch _ => false

namespace Solver

variable {Source : Type}

def evaluated (solver : Solver Source) : Nat :=
  match solver.stage with
  | .searching search => search.evaluated
  | .terminated result => result.evaluated
  | .idle _ | .constructed .. | .failed .. => 0

theorem stop_reason_of_cancelled {solver : Solver Source} (cancelled : solver.cancelled = true)
    (search : LocalSearch Source) : (solver.stopReason search).1 = some .cancelled := by
  unfold stopReason
  rw [if_pos cancelled]

theorem finish_counts {solver : Solver Source} {search : LocalSearch Source} {reason : StopReason}
    {result : SolveResult} (stage : (solver.finish search reason).stage = .terminated result) :
    result.reason = some reason ∧ result.evaluated = search.evaluated ∧
      result.accepted = search.accepted ∧ result.score = search.best.score := by
  unfold finish at stage
  split at stage
  · cases stage
  · rw [← SolveStage.terminated.inj stage]
    exact ⟨rfl, rfl, rfl, rfl⟩

variable [RandomSource Source]

section Ending

variable {rounds : Nat} {solver : Solver Source}

omit [RandomSource Source] in
theorem no_steps_left_iff_over : stepsLeft rounds solver = 0 ↔ solver.isOver = true := by
  unfold stepsLeft isOver
  cases solver.stage <;> simp

/-- If what holds of a solve whatever happens makes each of its steps bring it nearer to its end, then it
is over once it has taken enough of them. -/
theorem over_of_enough_steps (rounds : Nat) (Holds : Solver Source → Prop)
    (preserved : ∀ solver happening, Holds solver → Holds (solver.meets happening))
    (falls : ∀ solver, Holds solver → solver.isOver = false →
      stepsLeft rounds solver.advance < stepsLeft rounds solver)
    (holds : Holds solver) {history : List Happening}
    (enough : stepsLeft rounds solver ≤ history.countP (·.isStep)) :
    (solver.after history).isOver = true := by
  induction history generalizing solver with
  | nil => exact no_steps_left_iff_over.1 (Nat.le_zero.1 enough)
  | cons happening rest ih =>
      apply ih (preserved solver happening holds)
      cases happening with
      | step =>
          rw [List.countP_cons_of_pos rfl] at enough
          change stepsLeft rounds solver.advance ≤ _
          cases isOver : solver.isOver with
          | true =>
              rw [advance_of_over isOver, no_steps_left_iff_over.2 isOver]
              exact Nat.zero_le _
          | false =>
              have fewer := falls solver holds isOver
              omega
      | cancel =>
          rw [List.countP_cons_of_neg Bool.false_ne_true] at enough
          exact enough
      | watch clock =>
          rw [List.countP_cons_of_neg Bool.false_ne_true] at enough
          exact enough

end Ending

variable {placer : ExactPlacer} {timetable : Timetable} {config : Config} {clock : Clock}
  {source : Source} {scores : List Score} {solver : Solver Source}

/-- With a limit on its moves a solve is over after enough steps, whatever happens between them. -/
theorem over_within_limits {problem : Problem} {warnings : List WorkloadWarning}
    (assembled : problem.assemble config = .ok (timetable, warnings))
    (limited : LimitsMoves config.limits)
    (run : Run (ofTimetableWith placer timetable config clock source) scores solver)
    {history : List Happening}
    (enough : roundBound config.limits timetable + 3 ≤ history.countP (·.isStep)) :
    (solver.after history).isOver = true := by
  apply over_of_enough_steps (roundBound config.limits timetable) fun solver =>
    ∃ scores, Run (ofTimetableWith placer timetable config clock source) scores solver
  · intro solver happening reached
    rcases reached with ⟨scores, run⟩
    exact run.meets happening
  · intro solver reached goesOn
    rcases reached with ⟨scores, run⟩
    exact steps_left_advance assembled limited run goesOn
  · exact ⟨scores, run⟩
  · exact (steps_left_le _ solver).trans enough

section Cancelling

/-- A search that was cancelled makes no round, so every step brings it to its end at once. -/
theorem cancelled_steps_left (cancelled : solver.cancelled = true) (goesOn : solver.isOver = false) :
    stepsLeft 0 solver.advance < stepsLeft 0 solver := by
  have advances := solver.advances
  generalize solver.advance = next at advances ⊢
  cases advances with
  | construct stage => simp [stepsLeft, stage]
  | constructFailed stage => simp [stepsLeft, stage]
  | start stage => simp [stepsLeft, stage]
  | startFailed stage => simp [stepsLeft, stage]
  | stop stage =>
      rw [no_steps_left_iff_over.2 (finish_is_over _ _ _).1]
      simp [stepsLeft, stage]
  | @search search stage continues =>
      rw [stop_reason_of_cancelled cancelled search] at continues
      cases continues
  | rest isOver =>
      rw [goesOn] at isOver
      cases isOver

theorem over_after_cancel (solver : Solver Source) {history : List Happening}
    (enough : 3 ≤ history.countP (·.isStep)) : (solver.cancel.after history).isOver = true := by
  apply over_of_enough_steps 0 fun solver => solver.cancelled = true
  · intro solver happening cancelled
    cases happening with
    | step => exact (advance_keeps_settings solver).cancelled.trans cancelled
    | cancel => rfl
    | watch clock => exact cancelled
  · intro solver cancelled goesOn
    exact cancelled_steps_left cancelled goesOn
  · rfl
  · exact (steps_left_le 0 solver.cancel).trans enough

structure Stopping (count : Nat) (solver : Solver Source) : Prop where
  cancelled : solver.cancelled = true
  evaluated : solver.evaluated = count
  reason : ∀ result, solver.stage = .terminated result → result.reason = some .cancelled

omit [RandomSource Source] in
theorem stopping_of_cancel (goesOn : solver.isOver = false) :
    Stopping solver.evaluated solver.cancel := by
  refine ⟨rfl, rfl, ?_⟩
  intro result stage
  have stage : solver.stage = .terminated result := stage
  simp [isOver, stage] at goesOn

variable {count : Nat}

theorem Stopping.advance (working : timetable.isFinal = false)
    (accounts : Accounts placer timetable config scores solver) (stopping : Stopping count solver) :
    Stopping count solver.advance := by
  have cancelled : solver.advance.cancelled = true :=
    (advance_keeps_settings solver).cancelled.trans stopping.cancelled
  have counted := stopping.evaluated
  have advances := solver.advances
  generalize solver.advance = next at advances cancelled ⊢
  cases advances with
  | construct stage =>
      simp only [Solver.evaluated, stage] at counted
      exact ⟨cancelled, counted, fun _ same => nomatch same⟩
  | constructFailed stage =>
      simp only [Solver.evaluated, stage] at counted
      exact ⟨cancelled, counted, fun _ same => nomatch same⟩
  | start stage started =>
      simp only [Solver.evaluated, stage] at counted
      rcases bind_ok.1 started with ⟨acceptor, -, rest⟩
      rcases bind_ok.1 rest with ⟨ready, -, same⟩
      rw [← Except.ok.inj same]
      exact ⟨cancelled, counted, fun _ same => nomatch same⟩
  | startFailed stage =>
      simp only [Solver.evaluated, stage] at counted
      exact ⟨cancelled, counted, fun _ same => nomatch same⟩
  | @stop search reason stage stopped =>
      rw [stop_reason_of_cancelled stopping.cancelled] at stopped
      rw [← Option.some.inj stopped] at cancelled ⊢
      simp only [Solver.evaluated, stage] at counted
      rcases finish_terminates { solver with clock := (solver.stopReason search).2 }
        (accounts.sound stage).1 working .cancelled with ⟨result, ended⟩
      have counts := finish_counts ended
      refine ⟨cancelled, ?_, ?_⟩
      · simp only [Solver.evaluated, ended]
        exact counts.2.1.trans counted
      · intro other same
        rw [ended] at same
        rw [← SolveStage.terminated.inj same]
        exact counts.1
  | @search search stage continues =>
      rw [stop_reason_of_cancelled stopping.cancelled] at continues
      cases continues
  | rest => exact stopping

theorem Stopping.meets (working : timetable.isFinal = false)
    (accounts : Accounts placer timetable config scores solver) (stopping : Stopping count solver)
    (happening : Happening) : Stopping count (solver.meets happening) := by
  cases happening with
  | step => exact stopping.advance working accounts
  | cancel => exact ⟨rfl, stopping.evaluated, stopping.reason⟩
  | watch clock => exact ⟨stopping.cancelled, stopping.evaluated, stopping.reason⟩

/-- No move is evaluated any more, whatever happens to a solve that was cancelled. -/
theorem Stopping.after (working : timetable.isFinal = false)
    (run : Run (ofTimetableWith placer timetable config clock source) scores solver)
    (stopping : Stopping count solver) (history : List Happening) :
    Stopping count (solver.after history) := by
  induction history generalizing scores solver with
  | nil => exact stopping
  | cons happening rest ih =>
      rcases run.meets happening with ⟨later, met⟩
      exact ih met (stopping.meets working run.accounts happening)

end Cancelling

section Uncut

/-- A solve whose search is not cut short takes the step of one that nobody cancels. -/
theorem Alike.advance_uncut {other : Solver Source} {others : List Score} (alike : Alike solver other)
    (accounts : Accounts placer timetable config scores solver)
    (otherAccounts : Accounts placer timetable config others other)
    (untimed : config.limits.seconds = none) (kept : other.cancelled = false)
    (uncut : ∀ search, solver.stage = .searching search → solver.cancelled = false) :
    Alike solver.advance other.advance := by
  apply alike.advance_together accounts otherAccounts rfl rfl
  intro search stage
  have untimedHere : solver.config.limits.seconds = none := by
    rw [accounts.sameConfig]
    exact untimed
  have untimedThere : other.config.limits.seconds = none := by
    rw [otherAccounts.sameConfig]
    exact untimed
  rw [stop_reason_untimed untimedHere, stop_reason_untimed untimedThere, uncut search stage, kept,
    accounts.sameConfig, otherAccounts.sameConfig]

/-- Without a time limit a solve is where its steps alone would have taken it, unless it was cancelled
and has ended with a result. -/
theorem Run.alike_or_cut (working : timetable.isFinal = false)
    (untimed : config.limits.seconds = none)
    (run : Run (ofTimetableWith placer timetable config clock source) scores solver) :
    (∃ count, Alike solver
      (Solver.advance^[count] (ofTimetableWith placer timetable config clock source))) ∨
      solver.cancelled = true ∧ ∃ result, solver.stage = .terminated result := by
  induction run with
  | start => exact .inl ⟨0, .refl _⟩
  | cancel run ih =>
      rcases ih with ⟨count, alike⟩ | ⟨-, ended⟩
      · exact .inl ⟨count, alike.base, alike.published, alike.stage⟩
      · exact .inr ⟨rfl, ended⟩
  | watch run clock ih =>
      rcases ih with ⟨count, alike⟩ | cut
      · exact .inl ⟨count, alike.base, alike.published, alike.stage⟩
      · exact .inr cut
  | @advance scores solver run ih =>
      have accounts := run.accounts
      rcases ih with ⟨count, alike⟩ | ⟨cancelled, result, stage⟩
      · -- Only in the middle of its search does it matter whether the solve was cancelled.
        by_cases cut : ∃ search, solver.stage = .searching search ∧ solver.cancelled = true
        · right
          rcases cut with ⟨search, stage, cancelled⟩
          have stopped := stop_reason_of_cancelled cancelled search
          refine ⟨(advance_keeps_settings solver).cancelled.trans cancelled, ?_⟩
          simp only [Solver.advance, stage, stopped]
          exact finish_terminates _ (accounts.sound stage).1 working _
        · left
          refine ⟨count + 1, ?_⟩
          rcases run_of_steps (ofTimetableWith placer timetable config clock source) count with
            ⟨others, stepped⟩
          have kept := iterate_cancelled (ofTimetableWith placer timetable config clock source) count
          rw [Function.iterate_succ_apply']
          apply alike.advance_uncut accounts stepped.accounts untimed kept
          intro search stage
          cases cancelled : solver.cancelled with
          | true => exact absurd ⟨search, stage, cancelled⟩ cut
          | false => rfl
      · right
        have isOver : solver.isOver = true := by simp only [isOver, stage]
        rw [advance_of_over isOver]
        exact ⟨cancelled, result, stage⟩

/-- Whatever happens to a solve without a time limit, it fails only by a number that is too great for
its steps alone. -/
theorem Equipped.overflows_of_failed (equipped : Equipped Source timetable config)
    (untimed : config.limits.seconds = none)
    (run : Run (ofTimetableWith placer timetable config clock source) scores solver)
    {phase : SolvePhase} {fault : PlanningFault} (failed : solver.stage = .failed phase fault) :
    Overflows (ofTimetableWith placer timetable config clock source) fault := by
  rcases run.alike_or_cut equipped.working untimed with ⟨count, alike⟩ | ⟨-, result, ended⟩
  · exact (equipped.fails_iff_overflows fault).1 ⟨count, phase, alike.failed failed⟩
  · rw [failed] at ended
    cases ended

end Uncut

end Solver

end SchoolTimetable
