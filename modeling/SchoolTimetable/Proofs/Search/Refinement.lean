import Mathlib.Logic.Function.Iterate
import SchoolTimetable.Proofs.Random.Inexhaustible
import SchoolTimetable.Proofs.Search.PlainConstruction
import SchoolTimetable.Proofs.Search.PlainRounds
import SchoolTimetable.Proofs.Timetable.Candidates

/-!
The search with a director refines the plain search. Whoever cancels or watches a solve, and whatever is
drawn, it takes at all times the same decisions as the plain solve to which the same happens, and both
end with the same result.
-/

namespace SchoolTimetable

section Refining

variable {Source : Type} {timetable : Timetable} {weights : Weights}

/-- What can happen to a solve from one moment to the next: it makes its next step, it is cancelled, or
the clock is read by someone who watches it. -/
inductive Happening where
  | step
  | cancel
  | watch (clock : Clock)

namespace PlainSolve

variable [RandomSource Source]

def meets (solve : PlainSolve Source) : Happening → PlainSolve Source
  | .step => solve.advance
  | .cancel => { solve with cancelled := true }
  | .watch clock => { solve with clock := clock }

def after (solve : PlainSolve Source) (history : List Happening) : PlainSolve Source :=
  history.foldl meets solve

end PlainSolve

namespace Solver

def plain (solver : Solver Source) : PlainSolve Source where
  base := solver.base
  config := solver.config
  placer := solver.placer
  cancelled := solver.cancelled
  clock := solver.clock
  started := solver.started
  published := solver.published
  stage := match solver.stage with
    | .idle source => .idle source
    | .constructed director source => .constructed director.timetable.snapshot source
    | .searching search => .searching search.plain
    | .terminated result => .terminated result
    | .failed phase fault => .failed phase fault

theorem is_reached_eq (limit : Option Int) (count : Nat) :
    isReached limit count = limit.any fun bound => bound ≤ (count : Int) := by
  cases limit <;> rfl

theorem stop_reason_plain (solver : Solver Source) (search : LocalSearch Source) :
    solver.plain.stopReason search.plain = solver.stopReason search := by
  unfold stopReason PlainSolve.stopReason isLate
  dsimp only [plain, LocalSearch.plain]
  simp only [is_reached_eq]
  cases solver.config.limits.seconds <;> rfl

variable {placer : ExactPlacer} {config : Config} {scores : List Score} {solver : Solver Source}
  {search : LocalSearch Source}

theorem plain_stage (stage : solver.stage = .searching search) :
    solver.plain.stage = .searching search.plain := by
  simp only [plain, stage]

theorem finish_plain (solver : Solver Source) (sound : search.Sound solver.base weights)
    (working : solver.base.isFinal = false) (reason : StopReason) :
    (solver.finish search reason).plain = solver.plain.finish search.plain reason := by
  have arranges := sound.tracks.arranges
  have stillWorking := arranges.isFinal.trans working
  have fits := sound.fits.trans arranges.length.symm
  unfold finish
  rw [Timetable.restore_of_length stillWorking fits]
  have delivered : { search.director.timetable with
        lessons := search.director.timetable.lessonsWith search.best.snapshot
        score := some search.best.score, isFinal := true } =
      { solver.base.holding search.best.snapshot with
        score := some search.best.score, isFinal := true } := by
    rw [arranges.lessons_with, arranges.facts]
    rfl
  dsimp only [plain, PlainSolve.finish, LocalSearch.plain, Timetable.freeze, constructionScore?]
  rw [delivered]

variable [RandomSource Source]

def meets (solver : Solver Source) : Happening → Solver Source
  | .step => solver.advance
  | .cancel => solver.cancel
  | .watch clock => { solver with clock := clock }

theorem search_on_plain (solver : Solver Source) (sound : search.Sound solver.base solver.config.weights)
    (working : solver.base.isFinal = false) :
    (solver.searchOn search).plain =
      match search.plain.round solver.base solver.config.weights with
      | .error fault => { solver.plain with stage := .failed .localSearch fault }
      | .ok next =>
          { solver.plain with
            published := if search.best.score < next.best.score then next.best :: solver.published
              else solver.published
            stage := .searching next } := by
  rw [← LocalSearch.round_plain sound working]
  unfold searchOn
  cases search.round with
  | error fault => rfl
  | ok next => rfl

theorem advance_plain (accounts : Accounts placer timetable config scores solver)
    (working : timetable.isFinal = false) : solver.advance.plain = solver.plain.advance := by
  have advances := solver.advances
  generalize solver.advance = next at advances
  cases advances with
  | construct stage done =>
      have scored := (tracks_of_construct done).score_of
      simp only [PlainSolve.advance, plain, stage, done]
      rw [scored]
  | constructFailed stage failed => simp only [PlainSolve.advance, plain, stage, failed]
  | @start director source search stage started =>
      have tracks := tracks_of_construct (accounts.constructed stage)
      obtain ⟨rfl, rfl, rfl, -⟩ := accounts
      have begun := LocalSearch.start_plain tracks solver.config.acceptor source
      rw [started] at begun
      simp only [PlainSolve.advance, plain, stage, ← begun]
      rfl
  | @startFailed director source fault stage failed =>
      have tracks := tracks_of_construct (accounts.constructed stage)
      obtain ⟨rfl, rfl, rfl, -⟩ := accounts
      have begun := LocalSearch.start_plain tracks solver.config.acceptor source
      rw [failed] at begun
      simp only [PlainSolve.advance, plain, stage, ← begun]
      rfl
  | @stop search reason stage stopped =>
      have sound := (accounts.sound stage).1
      obtain ⟨rfl, rfl, rfl, -⟩ := accounts
      have plainStopped := stop_reason_plain solver search
      let read := { solver with clock := (solver.stopReason search).2 }
      simp only [PlainSolve.advance, plain_stage stage, plainStopped, stopped]
      exact finish_plain read sound working reason
  | @search search stage continues =>
      have sound := (accounts.sound stage).1
      obtain ⟨rfl, rfl, rfl, -⟩ := accounts
      have plainContinues := stop_reason_plain solver search
      let read := { solver with clock := (solver.stopReason search).2 }
      simp only [PlainSolve.advance, plain_stage stage, plainContinues, continues]
      exact search_on_plain read sound working
  | rest isOver =>
      cases stage : solver.stage with
      | terminated result => simp only [PlainSolve.advance, plain, stage]
      | failed phase fault => simp only [PlainSolve.advance, plain, stage]
      | _ => simp [Solver.isOver, stage] at isOver

def verdict? (solver : Solver Source) : Option Bool :=
  match solver.stage with
  | .searching search =>
      match (solver.stopReason search).1 with
      | some _ => none
      | none => search.verdict?
  | _ => none

theorem verdict_plain (accounts : Accounts placer timetable config scores solver)
    (working : timetable.isFinal = false) : solver.verdict? = solver.plain.verdict? := by
  unfold verdict? PlainSolve.verdict?
  cases stage : solver.stage with
  | searching search =>
      have sound := (accounts.sound stage).1
      obtain ⟨rfl, rfl, rfl, -⟩ := accounts
      simp only [plain_stage stage, stop_reason_plain]
      rw [LocalSearch.verdict_plain sound working]
      rfl
  | _ => simp only [plain, stage]

def after (solver : Solver Source) (history : List Happening) : Solver Source :=
  history.foldl meets solver

theorem after_steps (solver : Solver Source) (count : Nat) :
    solver.after (List.replicate count .step) = advance^[count] solver := by
  induction count generalizing solver with
  | zero => rfl
  | succ count ih =>
      rw [Function.iterate_succ_apply, ← ih]
      rfl

theorem Run.meets {start : Solver Source} (run : Run start scores solver) (happening : Happening) :
    ∃ all, Run start all (solver.meets happening) := by
  cases happening with
  | step => exact ⟨_, run.advance⟩
  | cancel => exact ⟨_, run.cancel⟩
  | watch clock => exact ⟨_, run.watch clock⟩

theorem Run.after {start : Solver Source} (run : Run start scores solver) (history : List Happening) :
    ∃ all, Run start all (solver.after history) := by
  induction history generalizing scores solver with
  | nil => exact ⟨scores, run⟩
  | cons happening rest ih =>
      obtain ⟨between, met⟩ := run.meets happening
      exact ih met

theorem meets_plain (accounts : Accounts placer timetable config scores solver)
    (working : timetable.isFinal = false) (happening : Happening) :
    (solver.meets happening).plain = solver.plain.meets happening := by
  cases happening with
  | step => exact advance_plain accounts working
  | cancel => rfl
  | watch clock => rfl

theorem after_plain {clock : Clock} {source : Source}
    (run : Run (ofTimetableWith placer timetable config clock source) scores solver)
    (working : timetable.isFinal = false) (history : List Happening) :
    (solver.after history).plain = solver.plain.after history := by
  induction history generalizing scores solver with
  | nil => rfl
  | cons happening rest ih =>
      obtain ⟨between, met⟩ := run.meets happening
      change ((solver.meets happening).after rest).plain = (solver.plain.meets happening).after rest
      rw [ih met, meets_plain run.accounts working]

theorem steps_of_advance_while {condition : Solver Source → Bool} {steps : Nat} {result : SolveResult}
    (finished : (advanceWhile condition steps solver).stage = .terminated result) :
    ∃ count, advanceWhile condition steps solver = solver.after (List.replicate count .step) := by
  induction steps generalizing solver with
  | zero =>
      unfold advanceWhile at finished ⊢
      split
      · exact ⟨0, rfl⟩
      · rename_i continues
        rw [if_neg continues] at finished
        cases finished
  | succ steps ih =>
      unfold advanceWhile at finished ⊢
      split
      · exact ⟨0, rfl⟩
      · rename_i continues
        rw [if_neg continues] at finished
        obtain ⟨count, same⟩ := ih finished
        exact ⟨count + 1, same⟩

theorem advance_while_of_over {steps count : Nat} (enough : count ≤ steps)
    (isOver : (advance^[count] solver).isOver = true) :
    advanceWhile (fun _ => true) steps solver = advance^[count] solver := by
  induction steps generalizing count solver with
  | zero =>
      obtain rfl := Nat.le_zero.1 enough
      simp only [Function.iterate_zero, id_eq] at isOver
      simp [advanceWhile, isOver]
  | succ steps ih =>
      cases now : solver.isOver with
      | true =>
          rw [Function.iterate_fixed (advance_of_over now)]
          simp [advanceWhile, now]
      | false =>
          cases count with
          | zero =>
              rw [Function.iterate_zero, id_eq, now] at isOver
              cases isOver
          | succ count =>
              rw [Function.iterate_succ_apply] at isOver ⊢
              rw [← ih (Nat.le_of_succ_le_succ enough) isOver]
              simp [advanceWhile, now]

theorem solve_of_steps {start : Solver Source} {count : Nat} {result : SolveResult} (idle : start.phase = .idle)
    (enough : count ≤ start.stepBound)
    (stage : (start.after (List.replicate count .step)).stage = .terminated result) :
    solve.run start = .ok result (start.after (List.replicate count .step)) := by
  rw [after_steps] at stage ⊢
  have isOver : (advance^[count] start).isOver = true := by simp only [Solver.isOver, stage]
  have ended : start.runToEnd = advance^[count] start := advance_while_of_over enough isOver
  rw [← ended] at stage ⊢
  exact solve_of_terminated idle stage

/-- Whatever happens to a solve of a timetable that is not final, as no assembled one is, it has at all
times drawn the same from its source, kept the same candidates, counted the same moves and published the
same assignments as the plain solve to which the same happens, and it decides the same next. So it stops
for the same reason and delivers the same result. -/
theorem search_refines_plain_search (placer : ExactPlacer) {timetable : Timetable} (config : Config)
    (clock : Clock) (source : Source) (working : timetable.isFinal = false) :
    let start := ofTimetableWith placer timetable config clock source
    let plainStart := PlainSolve.ofTimetableWith placer timetable config clock source
    (∀ history, (start.after history).plain = plainStart.after history ∧
      (start.after history).verdict? = (plainStart.after history).verdict?) ∧
    ∀ result ended, solve.run start = .ok result ended → ∃ steps,
      ended.plain = plainStart.after (List.replicate steps .step) ∧
      (plainStart.after (List.replicate steps .step)).stage = .terminated result := by
  intro start plainStart
  have same : ∀ history, (start.after history).plain = plainStart.after history :=
    fun history => after_plain .start working history
  refine ⟨fun history => ⟨same history, ?_⟩, ?_⟩
  · have begun : Run start [] start := .start
    obtain ⟨scores, run⟩ := begun.after history
    rw [← same]
    exact verdict_plain run.accounts working
  · intro result ended solved
    obtain ⟨terminated, rfl⟩ := ended_of_solve solved
    obtain ⟨steps, stepped⟩ := steps_of_advance_while terminated
    have reached : start.runToEnd.plain = plainStart.after (List.replicate steps .step) := by
      rw [← same, ← stepped]
      rfl
    refine ⟨steps, reached, ?_⟩
    rw [← reached]
    simp only [plain, terminated]

end Solver

/-- The first step of a plain solve that is to place all lessons one at a time. -/
theorem PlainSolve.advance_of_first_fit [RandomSource Source] {solve : PlainSolve Source} {source : Source}
    (idle : solve.stage = .idle source) (firstFit : solve.config.construction = .firstFit)
    (working : solve.base.isFinal = false) (someSlots : solve.base.slots ≠ []) :
    let assignment := (solve.base.firstFit solve.config.weights).map (·.placement)
    solve.advance = { solve with
      clock := solve.clock.read.2
      started := solve.clock.read.1
      published := [⟨solve.base.scoreOf solve.config.weights assignment, assignment, 0⟩]
      stage := .constructed assignment source } := by
  obtain ⟨director, done, same⟩ := Solver.construct_is_first_fit solve.placer firstFit working someSlots
  have assigned : director.timetable.snapshot = (solve.base.firstFit solve.config.weights).map (·.placement) := by
    rw [same]
    rfl
  simp only [advance, idle, done]
  rw [assigned]

end Refining

namespace MusicMorning

/-- Two hours of one subject, and in turns an hour of each of two others, for one of two classes. -/
def problem : Problem where
  term := "T"
  slots := [⟨"first", 0, 1, none, none, false⟩, ⟨"pause", 0, 2, none, none, true⟩,
    ⟨"fourth", 0, 4, none, none, false⟩, ⟨"fifth", 0, 5, none, none, false⟩]
  rooms := [⟨"hall", none, some 30, [], true⟩, ⟨"aula", none, some 40, [], true⟩]
  subjects := [⟨"math", "Mathematics", none⟩, ⟨"music", "Music", none⟩, ⟨"art", "Art", none⟩]
  classes := [⟨"5a", "5a", 5, some 28, none, true⟩, ⟨"6a", "6a", 6, none, none, false⟩]
  teachers := [⟨"meier", "Meier", none, 28, true⟩, ⟨"weber", "Weber", none, 28, true⟩]
  qualifications := [⟨"meier", "math", .primary, some [5, 6], none⟩, ⟨"weber", "music", .primary, some [5], none⟩,
    ⟨"weber", "art", .secondary, some [5], none⟩]
  availabilities := [⟨"meier", some "T", 0, 1, .preferred⟩, ⟨"meier", some "U", 0, 4, .blocked⟩,
    ⟨"weber", none, 0, 4, .blocked⟩, ⟨"weber", none, 0, 5, .blocked⟩]
  requirements := [⟨some "r1", "5a", "math", 2, .every, ["meier"]⟩, ⟨some "r2", "5a", "music", 1, .a, []⟩,
    ⟨some "r3", "5a", "art", 1, .b, []⟩, ⟨none, "6a", "math", 2, .every, []⟩]

def first : TimeSlot := ⟨"first", 0, 1, none, none⟩

def fourth : TimeSlot := ⟨"fourth", 0, 4, none, none⟩

def fifth : TimeSlot := ⟨"fifth", 0, 5, none, none⟩

def hall : Room := ⟨"hall", "hall", some 30, []⟩

def aula : Room := ⟨"aula", "aula", some 40, []⟩

def meier : Teacher := ⟨"meier", "Meier", none, 28, [], ["0-1"], [("math", [5, 6])]⟩

def weber : Teacher := ⟨"weber", "Weber", none, 28, ["0-4", "0-5"], [], [("music", [5]), ("art", [5])]⟩

def lesson (id : String) (subject : Subject) (pattern : WeekPattern) (teacher : Teacher) : Lesson :=
  ⟨id, ⟨"5a", "5a", 5, some 28, none⟩, subject, pattern, [teacher], [hall, aula], ⟨none, none, some teacher⟩⟩

def timetable : Timetable where
  term := "T"
  slots := [first, fourth, fifth]
  rooms := [hall, aula]
  teachers := [meier, weber]
  classes := [⟨"5a", "5a", 5, some 28, none⟩]
  subjects := [⟨"math", "Mathematics", none⟩, ⟨"music", "Music", none⟩, ⟨"art", "Art", none⟩]
  lessons := [lesson "r1-1" ⟨"math", "Mathematics", none⟩ .every meier,
    lesson "r1-2" ⟨"math", "Mathematics", none⟩ .every meier,
    lesson "r2-1" ⟨"music", "Music", none⟩ .a weber, lesson "r3-1" ⟨"art", "Art", none⟩ .b weber]
  score := none
  isFinal := false

theorem assignable_slots : problem.assignableSlots = problem.slots.filter (!·.isBreak) :=
  List.mergeSort_of_pairwise (by decide)

theorem assembly : problem.assemblyFaults (problem.lessonOutcomes false) = [] ∧
    problem.timetableOf (Problem.assembledLessons (problem.lessonOutcomes false)) = timetable := by
  unfold Problem.assemblyFaults Problem.overfullClasses Problem.timetableOf Problem.buildSlots
    Problem.lessonOutcomes Problem.requirementLessons
  simp only [Problem.candidates_by_level, assignable_slots]
  decide +kernel

theorem assembles {config : Config} (resourced : config.allowUnresourced = false) :
    ∃ warnings, problem.assemble config = .ok (timetable, warnings) := by
  have faultless := assembly.1
  rw [← resourced] at faultless
  have assembled := Problem.assemble_of_faultless faultless
  rw [resourced, assembly.2] at assembled
  exact ⟨_, assembled⟩

/-- What first fit comes to: the class has two subjects in the first slot of both weeks. -/
def opening : Snapshot :=
  [⟨some first, some hall, some meier⟩, ⟨some fourth, some hall, some meier⟩,
    ⟨some first, some aula, some weber⟩, ⟨some first, some aula, some weber⟩]

theorem construction_slots : constructionSlots timetable.slots = timetable.slots :=
  List.mergeSort_of_pairwise (by decide)

theorem construction_order : constructionOrder timetable.lessons = [0, 1, 2, 3] := by
  unfold constructionOrder
  rw [List.mergeSort_of_pairwise (by decide)]
  rfl

theorem first_fit : (timetable.firstFit .standard).map (·.placement) = opening := by
  unfold Timetable.firstFit
  rw [construction_slots, construction_order]
  decide +kernel

def settings (kind : AcceptorKind) (moves : Int) : Config :=
  { Config.standard with
    limits := ⟨none, none, some moves⟩
    acceptor := { AcceptorSettings.standard with kind := kind, historySize := 3 } }

abbrev config : Config := settings .lateAcceptance 3

theorem config_assembles : ∃ warnings, problem.assemble config = .ok (timetable, warnings) := assembles rfl

/-- An exchange that is worse, then a change that removes both clashes, then one that takes it back. -/
def draws : Wheel := ⟨[1, 1, 2, 0, 0, 2, 0, 0, 0], 0⟩

def start (config : Config) : Solver Wheel := .ofTimetable timetable config .still draws

def plainStart (config : Config) : PlainSolve Wheel :=
  .ofTimetableWith PlacementModel.placer timetable config .still draws

def opened (config : Config) : PlainSolve Wheel :=
  { plainStart config with
    clock := Clock.still.read.2
    started := Clock.still.read.1
    published := [⟨timetable.scoreOf config.weights opening, opening, 0⟩]
    stage := .constructed opening draws }

structure View where
  published : List Score
  current : Option Score
  verdict : Option Bool
  delivered : Option (Score × Nat × Nat)
deriving DecidableEq

def view (solve : PlainSolve Wheel) : View where
  published := solve.published.map (·.score)
  current := match solve.stage with
    | .searching search => some (solve.base.scoreOf solve.config.weights search.assignment)
    | _ => none
  verdict := solve.verdict?
  delivered := match solve.stage with
    | .terminated result => some (result.score, result.evaluated, result.accepted)
    | _ => none

/-- A worse move is taken back, one that makes the timetable feasible is kept, and so is the one that
undoes this, as it is no worse than what was reached three moves ago. -/
def course : List View :=
  [⟨[⟨-2, -3⟩], none, none, none⟩, ⟨[⟨-2, -3⟩], some ⟨-2, -3⟩, some false, none⟩,
    ⟨[⟨-2, -3⟩], some ⟨-2, -3⟩, some true, none⟩,
    ⟨[⟨0, -2⟩, ⟨-2, -3⟩], some ⟨0, -2⟩, some true, none⟩,
    ⟨[⟨0, -2⟩, ⟨-2, -3⟩], some ⟨-2, -3⟩, none, none⟩,
    ⟨[⟨0, -2⟩, ⟨-2, -3⟩], none, none, some (⟨0, -2⟩, 3, 2)⟩]

theorem course_of_plain : (List.range 6).map (fun steps =>
    view ((opened config).after (List.replicate steps .step))) = course := by
  decide +kernel

variable {kind : AcceptorKind} {moves : Int}

theorem plain_start_opens : (plainStart (settings kind moves)).advance = opened (settings kind moves) := by
  let solve := plainStart (settings kind moves)
  have idle : solve.stage = .idle draws := rfl
  have someSlots : solve.base.slots ≠ [] := List.cons_ne_nil _ _
  have placed : (solve.base.firstFit solve.config.weights).map (·.placement) = opening := first_fit
  have opens := solve.advance_of_first_fit idle rfl rfl someSlots
  rw [placed] at opens
  exact opens

/-- The solve after its construction is the plain one, which can be evaluated. -/
theorem plain_after (steps : Nat) : ((start (settings kind moves)).after (List.replicate (steps + 1) .step)).plain =
    (opened (settings kind moves)).after (List.replicate steps .step) := by
  have begun : Solver.Run (start (settings kind moves)) [] (start (settings kind moves)) := .start
  rw [Solver.after_plain begun rfl, List.replicate_succ, ← plain_start_opens]
  rfl

theorem run_after (config : Config) (history : List Happening) :
    ∃ scores, Solver.Run (start config) scores ((start config).after history) := by
  have begun : Solver.Run (start config) [] (start config) := .start
  exact begun.after history

theorem searching_of_view (steps : Nat) {score : Score}
    (current : (view ((opened (settings kind moves)).after (List.replicate steps .step))).current = some score) :
    ∃ search, ((start (settings kind moves)).after (List.replicate (steps + 1) .step)).stage = .searching search ∧
      search.current = score := by
  obtain ⟨scores, run⟩ := run_after (settings kind moves) (List.replicate (steps + 1) .step)
  have accounts := run.accounts
  rw [← plain_after] at current
  generalize (start (settings kind moves)).after (List.replicate (steps + 1) .step) = solver at accounts current
  cases stage : solver.stage with
  | searching search =>
      simp only [view, Solver.plain, stage, Option.some.injEq] at current
      rw [accounts.sameBase, accounts.sameConfig] at current
      exact ⟨search, rfl, (LocalSearch.current_eq (accounts.sound stage).1).trans current⟩
  | _ => simp [view, Solver.plain, stage] at current

theorem terminated_of_view (steps : Nat) {score : Score} {evaluated accepted : Nat}
    (delivered : (view ((opened (settings kind moves)).after (List.replicate steps .step))).delivered =
      some (score, evaluated, accepted)) :
    ∃ result, ((start (settings kind moves)).after (List.replicate (steps + 1) .step)).stage = .terminated result ∧
      result.score = score ∧ result.evaluated = evaluated ∧ result.accepted = accepted := by
  rw [← plain_after] at delivered
  cases stage : ((start (settings kind moves)).after (List.replicate (steps + 1) .step)).stage with
  | terminated result =>
      simp only [view, Solver.plain, stage, Option.some.injEq, Prod.mk.injEq] at delivered
      exact ⟨result, rfl, delivered⟩
  | _ => simp [view, Solver.plain, stage] at delivered

theorem view_of_course (steps : Nat) {seen : View} (listed : course[steps]? = some seen) :
    view ((opened config).after (List.replicate steps .step)) = seen := by
  rw [← course_of_plain, List.getElem?_map, Option.map_eq_some_iff] at listed
  obtain ⟨place, found, rfl⟩ := listed
  obtain ⟨bound, rfl⟩ := List.getElem?_eq_some_iff.1 found
  rw [List.getElem_range]

def toEnd : List Happening := List.replicate 6 .step

theorem solves : ∃ result, Solver.solve.run (start config) =
      .ok result ((start config).after toEnd) ∧
    ((start config).after toEnd).stage = .terminated result ∧
    result.score = ⟨0, -2⟩ ∧ result.evaluated = 3 ∧ result.accepted = 2 := by
  obtain ⟨result, stage, counted⟩ := terminated_of_view 5 (congrArg View.delivered (view_of_course 5 rfl))
  exact ⟨result, Solver.solve_of_steps rfl (by decide) stage, stage, counted⟩

/-- Of the three rounds the first takes its move back and the others keep theirs. -/
theorem search_is_plain : ∃ warnings, problem.assemble config = .ok (timetable, warnings) ∧
    timetable.isFinal = false ∧
    let solver := start config
    let plain := plainStart config
    (∀ history, (solver.after history).plain = plain.after history ∧
      (solver.after history).verdict? = (plain.after history).verdict?) ∧
    (solver.after (List.replicate 2 .step)).verdict? = some false ∧
    (solver.after (List.replicate 3 .step)).verdict? = some true ∧
    (solver.after (List.replicate 4 .step)).verdict? = some true ∧
    ∃ result ended, Solver.solve.run solver = .ok result ended ∧ result.score = ⟨0, -2⟩ ∧ result.evaluated = 3 ∧
      result.accepted = 2 ∧ ∃ steps, ended.plain = plain.after (List.replicate steps .step) ∧
        (plain.after (List.replicate steps .step)).stage = .terminated result := by
  obtain ⟨warnings, assembled⟩ := config_assembles
  have working : timetable.isFinal = false := rfl
  have refines := Solver.search_refines_plain_search PlacementModel.placer config .still
    draws working
  have verdict : ∀ steps seen, course[steps]? = some seen →
      ((start config).after (List.replicate (steps + 1) .step)).verdict? = seen.verdict := by
    intro steps seen listed
    have alike := refines.1 (List.replicate (steps + 1) .step)
    calc ((start config).after (List.replicate (steps + 1) .step)).verdict?
        = ((plainStart config).after (List.replicate (steps + 1) .step)).verdict? := alike.2
      _ = ((opened config).after (List.replicate steps .step)).verdict? :=
          congrArg PlainSolve.verdict? (alike.1.symm.trans (plain_after steps))
      _ = seen.verdict := congrArg View.verdict (view_of_course steps listed)
  obtain ⟨result, solved, -, counted⟩ := solves
  exact ⟨warnings, assembled, working, refines.1, verdict 1 _ rfl, verdict 2 _ rfl, verdict 3 _ rfl, result, _,
    solved, counted.1, counted.2.1, counted.2.2, refines.2 result _ solved⟩

end MusicMorning

end SchoolTimetable
