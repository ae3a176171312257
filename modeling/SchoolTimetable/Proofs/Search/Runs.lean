import SchoolTimetable.Proofs.Search.Construction
import SchoolTimetable.Proofs.Search.Rounds

/-!
Runs of a solver. Between two of its steps a solver may be cancelled, and whoever watches it may read
the clock. At all times what has been published is a rising row of best placements that starts with
those of construction, and no candidate that was evaluated scores better than the last of them; that
one is what the solve delivers.
-/

namespace SchoolTimetable

namespace Solver

variable {Source : Type}

/-- Best placements of a timetable that were published one after the other, the last one in front,
while candidates with some scores were evaluated. -/
structure PublishedFrom (timetable : Timetable) (weights : Weights) (constructed : Director)
    (scores : List Score) (published : List Best) : Prop where
  increasing : published.Pairwise fun later earlier => earlier.score < later.score
  first : published.getLast? = some ⟨constructed.score, constructed.timetable.snapshot, 0⟩
  exact : ∀ best ∈ published, best.score = fullScore weights (timetable.lessonsWith best.snapshot)
  fits : ∀ best ∈ published, best.snapshot.length = timetable.lessons.length
  seen : ∀ best ∈ published, best.score ∈ constructed.score :: scores

namespace PublishedFrom

variable {timetable : Timetable} {weights : Weights} {constructed : Director} {scores : List Score}
  {published : List Best}

theorem start (tracks : constructed.Tracks timetable weights) :
    PublishedFrom timetable weights constructed []
      [⟨constructed.score, constructed.timetable.snapshot, 0⟩] where
  increasing := List.pairwise_singleton _ _
  first := rfl
  exact := by
    intro best listed
    obtain rfl := List.mem_singleton.1 listed
    exact tracks.score_eq
  fits := by
    intro best listed
    obtain rfl := List.mem_singleton.1 listed
    exact (Timetable.snapshot_length _).trans tracks.arranges.length
  seen := by
    intro best listed
    obtain rfl := List.mem_singleton.1 listed
    exact List.mem_cons_self ..

theorem more_seen (log : PublishedFrom timetable weights constructed scores published)
    (more : List Score) : PublishedFrom timetable weights constructed (scores ++ more) published where
  increasing := log.increasing
  first := log.first
  exact := log.exact
  fits := log.fits
  seen := by
    intro best listed
    rw [← List.cons_append]
    exact List.mem_append_left more (log.seen best listed)

theorem le_last {last best : Best} (log : PublishedFrom timetable weights constructed scores published)
    (latest : published.head? = some last) (listed : best ∈ published) : best.score ≤ last.score := by
  obtain ⟨rest, rfl⟩ := List.head?_eq_some_iff.1 latest
  rcases List.mem_cons.1 listed with rfl | earlier
  · exact le_refl _
  · exact (List.rel_of_pairwise_cons log.increasing earlier).le

theorem publish {last next : Best} (log : PublishedFrom timetable weights constructed scores published)
    (latest : published.head? = some last) (better : last.score < next.score)
    (exact : next.score = fullScore weights (timetable.lessonsWith next.snapshot))
    (fits : next.snapshot.length = timetable.lessons.length) (seen : next.score ∈ scores) :
    PublishedFrom timetable weights constructed scores (next :: published) where
  increasing := List.pairwise_cons.2
    ⟨fun best listed => (log.le_last latest listed).trans_lt better, log.increasing⟩
  first := by
    obtain ⟨rest, rfl⟩ := List.head?_eq_some_iff.1 latest
    rw [List.getLast?_cons_cons]
    exact log.first
  exact := List.forall_mem_cons.2 ⟨exact, log.exact⟩
  fits := List.forall_mem_cons.2 ⟨fits, log.fits⟩
  seen := List.forall_mem_cons.2 ⟨List.mem_cons_of_mem _ seen, log.seen⟩

theorem constructed_listed (log : PublishedFrom timetable weights constructed scores published) :
    (⟨constructed.score, constructed.timetable.snapshot, 0⟩ : Best) ∈ published :=
  List.mem_of_getLast? log.first

theorem exists_last (log : PublishedFrom timetable weights constructed scores published) :
    ∃ last, published.head? = some last := by
  cases published with
  | nil => cases log.first
  | cons last rest => exact ⟨last, rfl⟩

end PublishedFrom

def reported (timetable : Timetable) (best : Best) : Timetable :=
  { timetable with
    lessons := timetable.lessonsWith best.snapshot, score := some best.score, isFinal := true }

def StageFits (timetable : Timetable) (weights : Weights) (constructed : Director)
    (scores : List Score) (published : List Best) : SolveStage Source → Prop
  | .idle _ => False
  | .constructed director _ =>
      director = constructed ∧ scores = [] ∧
        published = [⟨constructed.score, constructed.timetable.snapshot, 0⟩]
  | .searching search =>
      search.Sound timetable weights ∧ published.head? = some search.best ∧
        ∀ score ∈ scores, score ≤ search.best.score
  | .terminated result =>
      ∃ best, published.head? = some best ∧ result.score = best.score ∧
        result.timetable = reported timetable best ∧ ∀ score ∈ scores, score ≤ best.score
  | .failed .. => True

/-- What holds of a solver of a timetable at all times. Before its construction has ended nothing is
published. -/
structure Accounts (placer : ExactPlacer) (timetable : Timetable) (config : Config)
    (scores : List Score) (solver : Solver Source) : Prop where
  sameBase : solver.base = timetable
  sameConfig : solver.config = config
  samePlacer : solver.placer = placer
  progress :
    ((∃ source, solver.stage = .idle source) ∨ ∃ fault, solver.stage = .failed .constructing fault ∧
        construct placer config timetable = .error fault) ∧
      scores = [] ∧ solver.published = [] ∨
    ∃ constructed, construct placer config timetable = .ok constructed ∧
      PublishedFrom timetable config.weights constructed scores solver.published ∧
      StageFits timetable config.weights constructed scores solver.published solver.stage

variable {placer : ExactPlacer} {timetable : Timetable} {config : Config} {scores : List Score}
  {solver : Solver Source}

theorem accounts_start (clock : Clock) (source : Source) :
    Accounts placer timetable config [] (ofTimetableWith placer timetable config clock source) where
  sameBase := rfl
  sameConfig := rfl
  samePlacer := rfl
  progress := .inl ⟨.inl ⟨source, rfl⟩, rfl, rfl⟩

namespace Accounts

theorem cancel (accounts : Accounts placer timetable config scores solver) :
    Accounts placer timetable config scores solver.cancel :=
  ⟨accounts.sameBase, accounts.sameConfig, accounts.samePlacer, accounts.progress⟩

theorem watch (accounts : Accounts placer timetable config scores solver) (clock : Clock) :
    Accounts placer timetable config scores { solver with clock := clock } :=
  ⟨accounts.sameBase, accounts.sameConfig, accounts.samePlacer, accounts.progress⟩

/-- What a solve delivers in the end are the placements that were published last. -/
theorem finish {search : LocalSearch Source} {constructed : Director}
    (accounts : Accounts placer timetable config scores solver)
    (done : construct placer config timetable = .ok constructed)
    (log : PublishedFrom timetable config.weights constructed scores solver.published)
    (sound : search.Sound timetable config.weights)
    (latest : solver.published.head? = some search.best)
    (greatest : ∀ score ∈ scores, score ≤ search.best.score) (reason : StopReason) :
    Accounts placer timetable config scores (solver.finish search reason) := by
  unfold Solver.finish
  split
  · exact ⟨accounts.sameBase, accounts.sameConfig, accounts.samePlacer,
      .inr ⟨constructed, done, log, trivial⟩⟩
  · rename_i restored restoring
    obtain ⟨-, -, rfl⟩ := Timetable.restore_ok restoring
    refine ⟨accounts.sameBase, accounts.sameConfig, accounts.samePlacer,
      .inr ⟨constructed, done, log, search.best, latest, rfl, ?_, greatest⟩⟩
    have arranges := sound.tracks.arranges
    dsimp only [Timetable.freeze, reported]
    rw [arranges.lessons_with, arranges.facts]

theorem sound {search : LocalSearch Source}
    (accounts : Accounts placer timetable config scores solver)
    (stage : solver.stage = .searching search) :
    search.Sound timetable config.weights ∧ solver.published.head? = some search.best := by
  have progress := accounts.progress
  rw [stage] at progress
  rcases progress with ⟨impossible, -⟩ | ⟨constructed, -, -, sound, latest, -⟩
  · simp at impossible
  · exact ⟨sound, latest⟩

theorem constructed {director : Director} {source : Source}
    (accounts : Accounts placer timetable config scores solver)
    (stage : solver.stage = .constructed director source) :
    construct placer config timetable = .ok director := by
  have progress := accounts.progress
  rw [stage] at progress
  rcases progress with ⟨impossible, -⟩ | ⟨constructed, done, -, rfl, -, -⟩
  · simp at impossible
  · exact done

end Accounts

variable [RandomSource Source]

/-- The score of the candidate that the next step evaluates, if it is a round that finds a move. -/
def candidate? (solver : Solver Source) : Option Score :=
  match solver.stage with
  | .searching search =>
      match (solver.stopReason search).1 with
      | some _ => none
      | none => search.candidate?
  | _ => none

theorem candidate_of_over {solver : Solver Source} (isOver : solver.isOver) :
    solver.candidate? = none := by
  unfold candidate?
  split
  · rename_i stage
    simp [Solver.isOver, stage] at isOver
  · rfl

inductive Advances (solver : Solver Source) : Solver Source → Prop
  | construct {source : Source} {director : Director} (stage : solver.stage = .idle source)
      (done : construct solver.placer solver.config solver.base = .ok director) :
      Advances solver
        { solver with
          clock := solver.clock.read.2
          started := solver.clock.read.1
          published := [⟨director.score, director.timetable.snapshot, 0⟩]
          stage := .constructed director source }
  | constructFailed {source : Source} {fault : PlanningFault} (stage : solver.stage = .idle source)
      (failed : construct solver.placer solver.config solver.base = .error fault) :
      Advances solver
        { solver with
          clock := solver.clock.read.2
          started := solver.clock.read.1
          stage := .failed .constructing fault }
  | start {director : Director} {source : Source} {search : LocalSearch Source}
      (stage : solver.stage = .constructed director source)
      (started : LocalSearch.start solver.config.acceptor director source = .ok search) :
      Advances solver { solver with stage := .searching search }
  | startFailed {director : Director} {source : Source} {fault : PlanningFault}
      (stage : solver.stage = .constructed director source)
      (failed : LocalSearch.start solver.config.acceptor director source = .error fault) :
      Advances solver { solver with stage := .failed .localSearch fault }
  | stop {search : LocalSearch Source} {reason : StopReason}
      (stage : solver.stage = .searching search)
      (stopped : (solver.stopReason search).1 = some reason) :
      Advances solver ({ solver with clock := (solver.stopReason search).2 }.finish search reason)
  | search {search : LocalSearch Source} (stage : solver.stage = .searching search)
      (continues : (solver.stopReason search).1 = none) :
      Advances solver ({ solver with clock := (solver.stopReason search).2 }.searchOn search)
  | rest (isOver : solver.isOver) : Advances solver solver

theorem advances (solver : Solver Source) : solver.Advances solver.advance := by
  unfold advance
  cases stage : solver.stage with
  | idle source =>
      dsimp only
      cases done : Solver.construct solver.placer solver.config solver.base with
      | ok director => exact .construct stage done
      | error fault => exact .constructFailed stage done
  | constructed director source =>
      dsimp only
      cases started : LocalSearch.start solver.config.acceptor director source with
      | ok search => exact .start stage started
      | error fault => exact .startFailed stage started
  | searching search =>
      dsimp only
      cases stopped : (solver.stopReason search).1 with
      | some reason => exact .stop stage stopped
      | none => exact .search stage stopped
  | terminated result => exact .rest (by simp [isOver, stage])
  | failed phase fault => exact .rest (by simp [isOver, stage])

/-- The states of a solve, each with the scores of all candidates evaluated before it. -/
inductive Run (start : Solver Source) : List Score → Solver Source → Prop
  | start : Run start [] start
  | advance {scores : List Score} {solver : Solver Source} (run : Run start scores solver) :
      Run start (scores ++ solver.candidate?.toList) solver.advance
  | cancel {scores : List Score} {solver : Solver Source} (run : Run start scores solver) :
      Run start scores solver.cancel
  | watch {scores : List Score} {solver : Solver Source} (run : Run start scores solver)
      (clock : Clock) : Run start scores { solver with clock := clock }

theorem run_of_advance_while {start : Solver Source} {condition : Solver Source → Bool} {steps : Nat}
    {scores : List Score} {solver : Solver Source} {result : SolveResult} (run : Run start scores solver)
    (finished : (advanceWhile condition steps solver).stage = .terminated result) :
    ∃ all, Run start all (advanceWhile condition steps solver) := by
  induction steps generalizing scores solver with
  | zero =>
      unfold advanceWhile at finished ⊢
      split
      · exact ⟨scores, run⟩
      · rename_i continues
        rw [if_neg continues] at finished
        cases finished
  | succ steps ih =>
      unfold advanceWhile at finished ⊢
      split
      · exact ⟨scores, run⟩
      · rename_i continues
        rw [if_neg continues] at finished
        exact ih run.advance finished

omit [RandomSource Source] in
theorem terminated_of_outcome {solver : Solver Source} {result : SolveResult}
    (ended : solver.outcome? = some (.ok result)) : solver.stage = .terminated result := by
  unfold outcome? at ended
  split at ended
  · rename_i found stage
    obtain rfl := Except.ok.inj (Option.some.inj ended)
    exact stage
  · cases ended
  · cases ended

omit [RandomSource Source] in
theorem failed_of_outcome {solver : Solver Source} {fault : PlanningFault}
    (failed : solver.outcome? = some (.error fault)) : ∃ phase, solver.stage = .failed phase fault := by
  unfold outcome? at failed
  split at failed
  · cases failed
  · rename_i phase found stage
    obtain rfl := Except.error.inj (Option.some.inj failed)
    exact ⟨phase, stage⟩
  · cases failed

theorem advance_of_over {solver : Solver Source} (isOver : solver.isOver = true) :
    solver.advance = solver := by
  unfold advance
  unfold Solver.isOver at isOver
  split <;> simp_all

theorem ended_of_solve {start ended : Solver Source} {result : SolveResult}
    (solved : solve.run start = .ok result ended) :
    start.runToEnd.stage = .terminated result ∧ ended = start.runToEnd := by
  obtain ⟨_, _, got, rest⟩ := run_bind_ok.1 solved
  obtain ⟨rfl, rfl⟩ := EStateM.Result.ok.inj got
  dsimp only at rest
  split at rest
  · obtain ⟨_, _, refused, -⟩ := run_bind_ok.1 rest
    exact absurd refused run_throw_ne_ok
  obtain ⟨_, between, written, rest⟩ := run_bind_ok.1 rest
  obtain ⟨-, rfl⟩ := EStateM.Result.ok.inj written
  split at rest
  · rename_i delivered outcome
    obtain ⟨rfl, rfl⟩ := EStateM.Result.ok.inj rest
    exact ⟨terminated_of_outcome outcome, rfl⟩
  · exact absurd rest run_throw_ne_ok
  · exact absurd rest run_throw_ne_ok

theorem solve_of_terminated {start : Solver Source} {result : SolveResult} (idle : start.phase = .idle)
    (stage : start.runToEnd.stage = .terminated result) :
    solve.run start = .ok result start.runToEnd := by
  have outcome : start.runToEnd.outcome? = some (.ok result) := by simp only [outcome?, stage]
  simp only [solve, EStateM.run_bind, EStateM.run_get, idle, outcome]
  rfl

theorem solve_of_failed {start : Solver Source} {phase : SolvePhase} {fault : PlanningFault}
    (idle : start.phase = .idle) (stage : start.runToEnd.stage = .failed phase fault) :
    solve.run start = .error fault start.runToEnd := by
  have outcome : start.runToEnd.outcome? = some (.error fault) := by simp only [outcome?, stage]
  simp only [solve, EStateM.run_bind, EStateM.run_get, idle, outcome]
  rfl

theorem run_of_solve {start ended : Solver Source} {result : SolveResult}
    (solved : solve.run start = .ok result ended) :
    ended.stage = .terminated result ∧ ∃ scores, Run start scores ended := by
  obtain ⟨terminated, rfl⟩ := ended_of_solve solved
  exact ⟨terminated, run_of_advance_while .start terminated⟩

namespace Accounts

theorem searchOn {search : LocalSearch Source} {constructed : Director}
    (accounts : Accounts placer timetable config scores solver)
    (done : construct placer config timetable = .ok constructed)
    (log : PublishedFrom timetable config.weights constructed scores solver.published)
    (sound : search.Sound timetable config.weights)
    (latest : solver.published.head? = some search.best)
    (greatest : ∀ score ∈ scores, score ≤ search.best.score) :
    Accounts placer timetable config (scores ++ search.candidate?.toList) (solver.searchOn search) := by
  have longer := log.more_seen search.candidate?.toList
  unfold Solver.searchOn
  split
  · exact ⟨accounts.sameBase, accounts.sameConfig, accounts.samePlacer,
      .inr ⟨constructed, done, longer, trivial⟩⟩
  · rename_i next round
    obtain ⟨nextSound, improves, bounded⟩ := sound.round round
    refine ⟨accounts.sameBase, accounts.sameConfig, accounts.samePlacer,
      .inr ⟨constructed, done, ?_⟩⟩
    -- Only what is better than the last publication is published, so the log stays ascending.
    have atLeast : search.best.score ≤ next.best.score := by
      rcases improves with same | ⟨better, -⟩
      · rw [same]
      · exact better.le
    have nextGreatest : ∀ score ∈ scores ++ search.candidate?.toList, score ≤ next.best.score := by
      intro score listed
      rcases List.mem_append.1 listed with earlier | candidate
      · exact (greatest score earlier).trans atLeast
      · exact bounded score (Option.mem_toList.1 candidate)
    rcases improves with same | ⟨better, candidate⟩
    · have notBetter : ¬ search.best.score < next.best.score := by
        rw [same]
        exact lt_irrefl _
      rw [if_neg notBetter]
      exact ⟨longer, nextSound, same ▸ latest, nextGreatest⟩
    · have seen : next.best.score ∈ scores ++ search.candidate?.toList := by simp [candidate]
      rw [if_pos better]
      exact ⟨longer.publish latest better nextSound.best nextSound.fits seen, nextSound, rfl,
        nextGreatest⟩

theorem advance (accounts : Accounts placer timetable config scores solver) :
    Accounts placer timetable config (scores ++ solver.candidate?.toList) solver.advance := by
  have progress := accounts.progress
  have advances := solver.advances
  generalize solver.advance = next at advances ⊢
  cases advances with
  | construct stage done =>
      simp only [candidate?, stage, Option.toList_none, List.append_nil] at progress ⊢
      rcases progress with ⟨-, rfl, -⟩ | ⟨_, _, _, impossible⟩
      · rw [accounts.samePlacer, accounts.sameConfig, accounts.sameBase] at done
        exact ⟨accounts.sameBase, accounts.sameConfig, accounts.samePlacer,
          .inr ⟨_, done, .start (tracks_of_construct done), rfl, rfl, rfl⟩⟩
      · exact impossible.elim
  | constructFailed stage failed =>
      simp only [candidate?, stage, Option.toList_none, List.append_nil] at progress ⊢
      rcases progress with ⟨-, rfl, empty⟩ | ⟨_, _, _, impossible⟩
      · rw [accounts.samePlacer, accounts.sameConfig, accounts.sameBase] at failed
        exact ⟨accounts.sameBase, accounts.sameConfig, accounts.samePlacer,
          .inl ⟨.inr ⟨_, rfl, failed⟩, rfl, empty⟩⟩
      · exact impossible.elim
  | @start director source search stage started =>
      simp only [candidate?, stage, Option.toList_none, List.append_nil] at progress ⊢
      rcases progress with ⟨impossible, -⟩ | ⟨constructed, done, log, rfl, rfl, published⟩
      · simp at impossible
      · obtain ⟨sound, -, best⟩ := LocalSearch.sound_start (tracks_of_construct done) started
        refine ⟨accounts.sameBase, accounts.sameConfig, accounts.samePlacer,
          .inr ⟨director, done, log, sound, ?_, by simp⟩⟩
        rw [published, best]
        rfl
  | startFailed stage failed =>
      simp only [candidate?, stage, Option.toList_none, List.append_nil] at progress ⊢
      rcases progress with ⟨impossible, -⟩ | ⟨constructed, done, log, -⟩
      · simp at impossible
      · exact ⟨accounts.sameBase, accounts.sameConfig, accounts.samePlacer,
          .inr ⟨constructed, done, log, trivial⟩⟩
  | @stop search reason stage stopped =>
      have noCandidate : solver.candidate? = none := by simp only [candidate?, stage, stopped]
      rw [noCandidate, Option.toList_none, List.append_nil]
      simp only [stage] at progress
      rcases progress with ⟨impossible, -⟩ | ⟨constructed, done, log, sound, latest, greatest⟩
      · simp at impossible
      · have watched := accounts.watch (solver.stopReason search).2
        exact watched.finish done log sound latest greatest reason
  | @search search stage continues =>
      have sameCandidate : solver.candidate? = search.candidate? := by
        simp only [candidate?, stage, continues]
      rw [sameCandidate]
      simp only [stage] at progress
      rcases progress with ⟨impossible, -⟩ | ⟨constructed, done, log, sound, latest, greatest⟩
      · simp at impossible
      · have watched := accounts.watch (solver.stopReason search).2
        exact watched.searchOn done log sound latest greatest
  | rest isOver =>
      rw [candidate_of_over isOver, Option.toList_none, List.append_nil]
      exact accounts

end Accounts

theorem Run.accounts {clock : Clock} {source : Source}
    (run : Run (ofTimetableWith placer timetable config clock source) scores solver) :
    Accounts placer timetable config scores solver := by
  induction run with
  | start => exact accounts_start clock source
  | advance _ ih => exact ih.advance
  | cancel _ ih => exact ih.cancel
  | watch _ clock ih => exact ih.watch clock

end Solver

end SchoolTimetable
