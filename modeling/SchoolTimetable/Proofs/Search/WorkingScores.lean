import SchoolTimetable.Proofs.Evaluation.Counting
import SchoolTimetable.Proofs.Search.Alike
import SchoolTimetable.Proofs.Solution.Outcomes

/-!
How low a search can sink. Without chance no kept move is worse than all of what the acceptor goes by, the current
score and the scores that it remembers. These all begin with the score of construction, so neither the working score
nor what is remembered ever falls below it; hill climbing, which remembers nothing, never falls at all.
-/

namespace SchoolTimetable

variable {Source : Type}

namespace Acceptor

/-- The acceptor leaves nothing to chance, and remembers no score below a floor. -/
inductive Rests (floor : Score) : Acceptor → Prop
  | hillClimbing : Rests floor .hillClimbing
  | lateAcceptance {size : Nat} {cells : Array Score} {next : Nat} (above : ∀ past ∈ cells, floor ≤ past) :
      Rests floor (.lateAcceptance size cells next)

variable {settings : AcceptorSettings} {acceptor ready : Acceptor} {floor current candidate : Score}

/-- All that is remembered at the start of a phase is the score that it starts with. -/
theorem rests_of_started (steady : settings.kind ≠ .simulatedAnnealing) (made : ofSettings settings = .ok acceptor)
    (began : acceptor.started floor = .ok ready) : ready.Rests floor := by
  unfold ofSettings at made
  split at made
  · unfold lateAcceptanceOf at made
    split at made
    · cases made
    · obtain rfl := Except.ok.inj made
      unfold started at began
      dsimp only at began
      split at began
      · cases began
      · obtain rfl := Except.ok.inj began
        refine .lateAcceptance fun past remembered => ?_
        rw [Array.eq_of_mem_replicate remembered]
  · rename_i annealing
    exact absurd annealing steady
  · obtain rfl := Except.ok.inj made
    obtain rfl := Except.ok.inj began
    exact .hillClimbing

theorem Rests.step_ended (rests : acceptor.Rests floor) (above : floor ≤ current)
    (ended : acceptor.stepEnded current = .ok ready) : ready.Rests floor := by
  cases rests with
  | hillClimbing =>
      obtain rfl := Except.ok.inj ended
      exact .hillClimbing
  | @lateAcceptance size cells next remembered =>
      unfold stepEnded at ended
      dsimp only at ended
      split at ended
      · obtain rfl := Except.ok.inj ended
        refine .lateAcceptance fun past listed => ?_
        rcases Array.mem_or_eq_of_mem_setIfInBounds listed with earlier | rfl
        · exact remembered past earlier
        · exact above
      · cases ended

variable [RandomSource Source]

/-- A candidate that is kept is not below the floor: it is at least as good as the current score or as one that is
remembered. -/
theorem Rests.accepted (rests : acceptor.Rests floor) (above : floor ≤ current) {source after : Source}
    (accepted : (acceptor.accepts current candidate).run source = .ok true after) : floor ≤ candidate := by
  unfold accepts at accepted
  split at accepted
  · rename_i atLeast
    exact above.trans atLeast
  · cases rests with
    | hillClimbing =>
        obtain ⟨refused, -⟩ := EStateM.Result.ok.inj accepted
        cases refused
    | @lateAcceptance size cells next remembered =>
        dsimp only at accepted
        split at accepted
        · rename_i past found
          obtain ⟨reached, -⟩ := EStateM.Result.ok.inj accepted
          exact (remembered past (Array.mem_of_getElem? found)).trans (of_decide_eq_true reached)
        · exact absurd accepted run_throw_ne_ok

theorem climbs_of_accepted {source after : Source}
    (accepted : (hillClimbing.accepts current candidate).run source = .ok true after) : current ≤ candidate := by
  unfold accepts at accepted
  split at accepted
  · assumption
  · obtain ⟨refused, -⟩ := EStateM.Result.ok.inj accepted
    cases refused

end Acceptor

namespace LocalSearch

structure Rests (floor : Score) (search : LocalSearch Source) : Prop where
  acceptor : search.acceptor.Rests floor
  current : floor ≤ search.current

structure Climbs (reached : Score) (search : LocalSearch Source) : Prop where
  acceptor : search.acceptor = .hillClimbing
  current : reached ≤ search.current

variable {search next : LocalSearch Source}

theorem rests_of_start {settings : AcceptorSettings} {director : Director} {source : Source}
    (steady : settings.kind ≠ .simulatedAnnealing) (started : start settings director source = .ok search) :
    search.Rests director.score := by
  obtain ⟨acceptor, made, rest⟩ := bind_ok.1 started
  obtain ⟨ready, began, same⟩ := bind_ok.1 rest
  obtain rfl := Except.ok.inj same
  exact ⟨Acceptor.rests_of_started steady made began, le_refl _⟩

theorem climbs_of_start {settings : AcceptorSettings} {director : Director} {source : Source}
    (climbing : settings.kind = .hillClimbing) (started : start settings director source = .ok search) :
    search.Climbs director.score := by
  obtain ⟨acceptor, made, rest⟩ := bind_ok.1 started
  obtain ⟨ready, began, same⟩ := bind_ok.1 rest
  obtain rfl := Except.ok.inj same
  simp only [Acceptor.ofSettings, climbing] at made
  obtain rfl := Except.ok.inj made
  exact ⟨(Except.ok.inj began).symm, le_refl _⟩

variable [RandomSource Source] {floor reached : Score}

/-- A round without a move and one whose move is taken back leave the working score, and a move that is kept takes
it nowhere below the floor. -/
theorem Rests.round (rests : search.Rests floor) (done : search.round = .ok next) : next.Rests floor := by
  cases round_to_of_round done with
  | idle selected ended => exact ⟨rests.acceptor.step_ended rests.current ended, rests.current⟩
  | @kept move moved between source acceptor selected performed accepted ended =>
      have above := rests.acceptor.accepted rests.current accepted
      refine ⟨rests.acceptor.step_ended above ended, ?_⟩
      change floor ≤ ((search.counted source).keep moved).current
      rw [keep_current]
      exact above
  | undone selected performed rejected undone ended =>
      exact ⟨rests.acceptor.step_ended rests.current ended, rests.current⟩

theorem Climbs.round (climbs : search.Climbs reached) (done : search.round = .ok next) : next.Climbs reached := by
  have acceptor := climbs.acceptor
  cases round_to_of_round done with
  | idle selected ended =>
      rw [acceptor] at ended
      exact ⟨(Except.ok.inj ended).symm, climbs.current⟩
  | @kept move moved between source _ selected performed accepted ended =>
      rw [acceptor] at ended accepted
      refine ⟨(Except.ok.inj ended).symm, ?_⟩
      change reached ≤ ((search.counted source).keep moved).current
      rw [keep_current]
      exact climbs.current.trans (Acceptor.climbs_of_accepted accepted)
  | undone selected performed rejected undone ended =>
      rw [acceptor] at ended
      exact ⟨(Except.ok.inj ended).symm, climbs.current⟩

end LocalSearch

namespace Solver

variable [RandomSource Source] {solver : Solver Source} {search : LocalSearch Source}

/-- The search that a solve has come to has just been started or comes out of a round. -/
theorem searching_of_advance (stage : solver.advance.stage = .searching search) :
    (∃ director source, solver.stage = .constructed director source ∧
      LocalSearch.start solver.config.acceptor director source = .ok search) ∨
    ∃ before, solver.stage = .searching before ∧ before.round = .ok search := by
  have advances := solver.advances
  generalize solver.advance = next at advances stage
  cases advances with
  | @start director source started stageBefore begun =>
      obtain rfl := SolveStage.searching.inj stage
      exact .inl ⟨director, source, stageBefore, begun⟩
  | @stop before reason stageBefore stopped =>
      have isOver := (finish_is_over { solver with clock := (solver.stopReason before).2 } before reason).1
      simp [Solver.isOver, stage] at isOver
  | @search before stageBefore continues =>
      unfold searchOn at stage
      split at stage
      · cases stage
      · rename_i after round
        obtain rfl := SolveStage.searching.inj stage
        exact .inr ⟨before, stageBefore, round⟩
  | rest isOver => simp [Solver.isOver, stage] at isOver
  | _ => cases stage

/-- A search that a solve has come to goes on by rounds until the solve is over. -/
theorem advance_of_searching (stage : solver.stage = .searching search) :
    solver.advance.isOver = true ∨
      ∃ next, search.round = .ok next ∧ solver.advance.stage = .searching next := by
  have advances := solver.advances
  generalize solver.advance = after at advances
  cases advances with
  | @stop before reason stageBefore stopped => exact .inl (finish_is_over _ _ _).1
  | @search before stageBefore continues =>
      obtain rfl := SolveStage.searching.inj (stageBefore.symm.trans stage)
      cases round : before.round with
      | error fault => exact .inl (by simp [Solver.isOver, search_on_of_error round])
      | ok next => exact .inr ⟨next, rfl, search_on_of_ok round⟩
  | rest isOver => simp [Solver.isOver, stage] at isOver
  | construct other => simp [stage] at other
  | constructFailed other => simp [stage] at other
  | start other => simp [stage] at other
  | startFailed other => simp [stage] at other

variable {Holds : LocalSearch Source → Prop}

theorem later_searches_hold (kept : ∀ search next, Holds search → search.round = .ok next → Holds next)
    (history : List Happening) {later : LocalSearch Source}
    (reached : solver.isOver = true ∨ ∃ search, solver.stage = .searching search ∧ Holds search)
    (stage : (solver.after history).stage = .searching later) : Holds later := by
  induction history generalizing solver with
  | nil =>
      rcases reached with isOver | ⟨search, same, holds⟩
      · change solver.stage = .searching later at stage
        simp [Solver.isOver, stage] at isOver
      · obtain rfl := SolveStage.searching.inj (same.symm.trans stage)
        exact holds
  | cons happening rest ih =>
      refine ih ?_ stage
      cases happening with
      | step =>
          change solver.advance.isOver = true ∨ _
          rcases reached with isOver | ⟨search, same, holds⟩
          · rw [advance_of_over isOver]
            exact .inl isOver
          · rcases advance_of_searching same with ended | ⟨next, round, after⟩
            · exact .inl ended
            · exact .inr ⟨next, after, kept search next holds round⟩
      | cancel => exact reached
      | watch clock => exact reached

variable {placer : ExactPlacer} {timetable : Timetable} {config : Config} {clock : Clock} {source : Source}
  {scores : List Score}

/-- What holds of a search from construction on and is preserved by rounds holds at every head of the loop. -/
theorem Run.search_holds {constructed : Director} (done : construct placer config timetable = .ok constructed)
    (starts : ∀ source search, LocalSearch.start config.acceptor constructed source = .ok search → Holds search)
    (kept : ∀ search next, Holds search → search.round = .ok next → Holds next)
    (run : Run (ofTimetableWith placer timetable config clock source) scores solver)
    (stage : solver.stage = .searching search) : Holds search := by
  induction run generalizing search with
  | start => cases stage
  | advance run ih =>
      rcases searching_of_advance stage with ⟨director, drawn, before, started⟩ | ⟨previous, before, round⟩
      · have same := run.accounts.constructed before
        obtain rfl := Except.ok.inj (done.symm.trans same)
        rw [run.accounts.sameConfig] at started
        exact starts drawn search started
      · exact kept previous search (ih before) round
  | cancel run ih => exact ih stage
  | watch run clock ih => exact ih stage

omit [RandomSource Source] in
theorem Accounts.construction_of_searching (accounts : Accounts placer timetable config scores solver)
    (stage : solver.stage = .searching search) :
    ∃ constructed, construct placer config timetable = .ok constructed ∧
      PublishedFrom timetable config.weights constructed scores solver.published ∧
      search.Sound timetable config.weights := by
  have progress := accounts.progress
  rw [stage] at progress
  rcases progress with ⟨impossible, -⟩ | ⟨constructed, done, log, sound, -, -⟩
  · simp at impossible
  · exact ⟨constructed, done, log, sound⟩

/-- Without simulated annealing the working timetable is at every head of the loop at least as good as what was
constructed, and against the rules in no more ways. Hill climbing never loses what it has reached. -/
theorem working_scores_rest_on_construction (placer : ExactPlacer) (timetable : Timetable) (config : Config)
    (clock : Clock) (source : Source) (steady : config.acceptor.kind ≠ .simulatedAnnealing) :
    let start := ofTimetableWith placer timetable config clock source
    ∀ history search, (start.after history).stage = .searching search →
      ∃ constructed, construct placer config timetable = .ok constructed ∧
        (start.after history).constructionScore? = some constructed.score ∧
        search.current = search.director.timetable.fullScore config.weights ∧
        constructed.score ≤ search.current ∧
        countFaults search.director.timetable.lessons ≤ countFaults constructed.timetable.lessons ∧
        (config.acceptor.kind = .hillClimbing → ∀ more later,
          (start.after (history ++ more)).stage = .searching later → search.current ≤ later.current) := by
  intro start history search stage
  have begun : Run start [] start := .start
  obtain ⟨scores, run⟩ := begun.after history
  obtain ⟨constructed, done, log, sound⟩ := run.accounts.construction_of_searching stage
  have rests : search.Rests constructed.score := run.search_holds done
    (fun _ _ started => LocalSearch.rests_of_start steady started) (fun _ _ rests => rests.round) stage
  have counted : search.current = search.director.timetable.fullScore config.weights := by
    rw [sound.current, sound.tracks.score_eq, sound.tracks.arranges.lessons_with_snapshot]
    rfl
  refine ⟨constructed, done, ?_, counted, rests.current, ?_, ?_⟩
  · simp only [constructionScore?, log.first, Option.map_some]
  · have tracks := tracks_of_construct done
    have above := rests.current
    rw [counted, tracks.score_eq, tracks.arranges.lessons_with_snapshot, Score.le_iff] at above
    simp only [Timetable.fullScore, full_score_eq_counts] at above
    omega
  · intro climbing more later laterStage
    have climbed : search.Climbs constructed.score := run.search_holds done
      (fun _ _ started => LocalSearch.climbs_of_start climbing started) (fun _ _ climbs => climbs.round) stage
    have climbs : search.Climbs search.current := ⟨climbed.acceptor, le_refl _⟩
    rw [after, List.foldl_append] at laterStage
    have laterClimbs := later_searches_hold (fun _ _ climbs => climbs.round) more (.inr ⟨search, stage, climbs⟩)
      laterStage
    exact laterClimbs.current

end Solver

namespace MusicMorning

open Solver

theorem climbing_views :
    (view ((opened (settings .hillClimbing 3)).after (List.replicate 3 .step))).current = some ⟨0, -2⟩ ∧
    (view ((opened (settings .hillClimbing 3)).after (List.replicate 4 .step))).current = some ⟨0, -2⟩ := by
  decide +kernel

/-- Late acceptance keeps a move that makes the timetable worse, but not worse than it was constructed; hill
climbing has the same draws and does not keep it. -/
theorem regression_rests_on_construction : ∃ warnings constructed better worse climbing later,
    problem.assemble config = .ok (timetable, warnings) ∧ config.acceptor.kind ≠ .simulatedAnnealing ∧
    construct PlacementModel.placer config timetable = .ok constructed ∧
    ((start config).after (List.replicate 4 .step)).stage = .searching better ∧
    ((start config).after (List.replicate 5 .step)).stage = .searching worse ∧
    better.current = ⟨0, -2⟩ ∧ worse.current = ⟨-2, -3⟩ ∧
    constructed.score ≤ better.current ∧ constructed.score ≤ worse.current ∧
    countFaults worse.director.timetable.lessons ≤ countFaults constructed.timetable.lessons ∧
    ((start (settings .hillClimbing 3)).after (List.replicate 4 .step)).stage = .searching climbing ∧
    ((start (settings .hillClimbing 3)).after (List.replicate 5 .step)).stage = .searching later ∧
    climbing.current = ⟨0, -2⟩ ∧ later.current = ⟨0, -2⟩ ∧ climbing.current ≤ later.current := by
  obtain ⟨warnings, assembled⟩ := config_assembles
  obtain ⟨better, betterStage, betterScore⟩ := searching_of_view 3 (congrArg View.current (view_of_course 3 rfl))
  obtain ⟨worse, worseStage, worseScore⟩ := searching_of_view 4 (congrArg View.current (view_of_course 4 rfl))
  have steady : config.acceptor.kind ≠ .simulatedAnnealing := by decide
  have rests := working_scores_rest_on_construction PlacementModel.placer timetable config .still draws steady
  obtain ⟨constructed, done, -, -, aboveBetter, -⟩ := rests _ better betterStage
  obtain ⟨same, doneAgain, -, -, aboveWorse, noMoreFaults, -⟩ := rests _ worse worseStage
  obtain rfl := Except.ok.inj (done.symm.trans doneAgain)
  obtain ⟨climbing, climbingStage, climbingScore⟩ := searching_of_view 3 climbing_views.1
  obtain ⟨later, laterStage, laterScore⟩ := searching_of_view 4 climbing_views.2
  obtain ⟨_, -, -, -, -, -, climbs⟩ := working_scores_rest_on_construction PlacementModel.placer timetable
    (settings .hillClimbing 3) .still draws (by decide) (List.replicate 4 .step) climbing climbingStage
  exact ⟨warnings, constructed, better, worse, climbing, later, assembled, steady, done, betterStage, worseStage,
    betterScore, worseScore, aboveBetter, aboveWorse, noMoreFaults, climbingStage, laterStage, climbingScore,
    laterScore, climbs rfl [.step] later laterStage⟩

end MusicMorning

end SchoolTimetable
