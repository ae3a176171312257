import SchoolTimetable.Clock
import SchoolTimetable.Search.ExactPlacement
import SchoolTimetable.Search.LocalSearch

/-!
A solver takes one timetable through construction and local search. It moves in small steps, so that
whoever runs it can look at its best placements or cancel it between two of them. When the search
ends, the best placements are written back and the timetable is final.
-/

namespace SchoolTimetable

inductive SolvePhase where
  | idle
  | constructing
  | localSearch
  | terminated
deriving DecidableEq, Repr

def SolvePhase.text : SolvePhase → String
  | .idle => "IDLE"
  | .constructing => "CONSTRUCTING"
  | .localSearch => "LOCAL_SEARCH"
  | .terminated => "TERMINATED"

/-- How a solve ended; a provisional result is that of a solve that still runs. -/
inductive SolveOutcome where
  | feasible
  | infeasible
  | timedOut
  | solving
deriving DecidableEq, Repr

namespace SolveOutcome

def all : List SolveOutcome := [.feasible, .infeasible, .timedOut, .solving]

def text : SolveOutcome → String
  | .feasible => "FEASIBLE"
  | .infeasible => "INFEASIBLE"
  | .timedOut => "TIMED_OUT"
  | .solving => "SOLVING"

def ofText? (text : String) : Option SolveOutcome := all.find? (·.text == text)

end SolveOutcome

inductive StopReason where
  | timeLimit
  | unimprovedLimit
  | moveLimit
  | cancelled
deriving DecidableEq, Repr

namespace StopReason

def all : List StopReason := [.timeLimit, .unimprovedLimit, .moveLimit, .cancelled]

def text : StopReason → String
  | .timeLimit => "TIME_LIMIT"
  | .unimprovedLimit => "UNIMPROVED_LIMIT"
  | .moveLimit => "MOVE_LIMIT"
  | .cancelled => "CANCELLED"

def ofText? (text : String) : Option StopReason := all.find? (·.text == text)

end StopReason

/-- What a solve delivers, feasible or not. Only a provisional result has no reason to have stopped. -/
structure SolveResult where
  timetable : Timetable
  score : Score
  outcome : SolveOutcome
  reason : Option StopReason
  construction : Score
  evaluated : Nat
  accepted : Nat
  elapsed : Float
deriving Repr

namespace SolveResult

def isFeasible (result : SolveResult) : Bool := result.score.hard == 0

/-- Stopped by the time limit and not because nothing better was found. -/
def isTimeBounded (result : SolveResult) : Bool := result.reason == some .timeLimit

def isCancelled (result : SolveResult) : Bool := result.reason == some .cancelled

end SolveResult

inductive SolveStage (Source : Type) where
  | idle (source : Source)
  | constructed (director : Director) (source : Source)
  | searching (search : LocalSearch Source)
  | terminated (result : SolveResult)
  | failed (phase : SolvePhase) (fault : PlanningFault)

structure Solver (Source : Type) where
  /-- The timetable as it was handed in. -/
  base : Timetable
  config : Config
  /-- What places all lessons at once where the settings ask for it. -/
  placer : ExactPlacer
  cancelled : Bool
  clock : Clock
  started : Float
  /-- All best placements so far, the last one in front. -/
  published : List Best
  stage : SolveStage Source

namespace Solver

variable {Source : Type} [RandomSource Source]

def ofTimetableWith (placer : ExactPlacer) (timetable : Timetable) (config : Config) (clock : Clock)
    (source : Source) : Solver Source :=
  ⟨timetable, config, placer, false, clock, 0, [], .idle source⟩

def ofTimetable (timetable : Timetable) (config : Config) (clock : Clock) (source : Source) :
    Solver Source :=
  ofTimetableWith PlacementModel.placer timetable config clock source

def cancel (solver : Solver Source) : Solver Source := { solver with cancelled := true }

def phase (solver : Solver Source) : SolvePhase :=
  match solver.stage with
  | .idle _ => .idle
  | .constructed .. => .constructing
  | .searching _ => .localSearch
  | .terminated _ => .terminated
  | .failed phase _ => phase

def isOver (solver : Solver Source) : Bool :=
  match solver.stage with
  | .terminated _ | .failed .. => true
  | _ => false

def bestScore? (solver : Solver Source) : Option Score := solver.published.head?.map (·.score)

/-- The score that construction reached, the first to be published. -/
def constructionScore? (solver : Solver Source) : Option Score :=
  solver.published.getLast?.map (·.score)

/-- The result with the best placements so far, and the solver after the clock was read for it. None
before construction has ended. -/
def currentBest (solver : Solver Source) : Except PlanningFault (Option SolveResult × Solver Source) :=
  match solver.published.head?, solver.constructionScore? with
  | some best, some construction => do
      let copy ← solver.base.copyWith best.snapshot (some best.score)
      let (now, clock) := solver.clock.read
      let result : SolveResult :=
        { timetable := copy
          score := best.score
          outcome := .solving
          reason := none
          construction := construction
          evaluated := best.moves
          accepted := 0
          elapsed := now - solver.started }
      return (some result, { solver with clock := clock })
  | _, _ => return (none, solver)

/-- Places all lessons: all at once if that is asked for and can be done, and one at a time what is
left open then. -/
def construct (placer : ExactPlacer) (config : Config) (timetable : Timetable) :
    Except PlanningFault Director := do
  let fresh := Director.ofTimetable timetable config.weights
  let director ← match config.construction with
    | .exact => do
        let (_, placed) ← fresh.placeExactlyBy placer config.seed
        pure placed
    | .firstFit => pure fresh
  match FirstFit.run.run (FirstFit.ofDirector director) with
  | .ok _ state => return state.director
  | .error fault _ => throw fault

def isReached (limit : Option Int) (count : Nat) : Bool :=
  match limit with
  | some bound => bound ≤ count
  | none => false

/-- Whether the time is up, and the clock afterwards. It is read only if there is a time limit. -/
def isLate (solver : Solver Source) : Bool × Clock :=
  match solver.config.limits.seconds with
  | some seconds =>
      let (now, clock) := solver.clock.read
      (seconds ≤ now - solver.started, clock)
  | none => (false, solver.clock)

/-- Why the search stops now, if it does: being cancelled comes first, then the time, the moves and
the moves without improvement. -/
def stopReason (solver : Solver Source) (search : LocalSearch Source) : Option StopReason × Clock :=
  if solver.cancelled then (some .cancelled, solver.clock)
  else
    let (late, clock) := solver.isLate
    let limits := solver.config.limits
    if late then (some .timeLimit, clock)
    else if isReached limits.moves search.evaluated then (some .moveLimit, clock)
    else if isReached limits.unimprovedMoves search.unimproved then (some .unimprovedLimit, clock)
    else (none, clock)

def outcomeOf (reason : StopReason) (best : Score) : SolveOutcome :=
  if reason = .timeLimit then .timedOut
  else if best.hard = 0 then .feasible
  else .infeasible

def finish (solver : Solver Source) (search : LocalSearch Source) (reason : StopReason) : Solver Source :=
  match search.director.timetable.restore search.best.snapshot with
  | .error fault => { solver with stage := .failed .localSearch fault }
  | .ok restored =>
      let (now, clock) := solver.clock.read
      let result : SolveResult :=
        { timetable := { restored with score := some search.best.score }.freeze
          score := search.best.score
          outcome := outcomeOf reason search.best.score
          reason := some reason
          construction := solver.constructionScore?.getD search.best.score
          evaluated := search.evaluated
          accepted := search.accepted
          elapsed := now - solver.started }
      { solver with clock := clock, stage := .terminated result }

def searchOn (solver : Solver Source) (search : LocalSearch Source) : Solver Source :=
  match search.round with
  | .error fault => { solver with stage := .failed .localSearch fault }
  | .ok next =>
      let published :=
        if search.best.score < next.best.score then next.best :: solver.published
        else solver.published
      { solver with published := published, stage := .searching next }

def advance (solver : Solver Source) : Solver Source :=
  match solver.stage with
  | .idle source =>
      let (now, clock) := solver.clock.read
      let begun := { solver with clock := clock, started := now }
      match construct solver.placer solver.config solver.base with
      | .error fault => { begun with stage := .failed .constructing fault }
      | .ok director =>
          { begun with
            published := [⟨director.score, director.timetable.snapshot, 0⟩]
            stage := .constructed director source }
  | .constructed director source =>
      match LocalSearch.start solver.config.acceptor director source with
      | .error fault => { solver with stage := .failed .localSearch fault }
      | .ok search => { solver with stage := .searching search }
  | .searching search =>
      let (reason, clock) := solver.stopReason search
      let read := { solver with clock := clock }
      match reason with
      | some reason => read.finish search reason
      | none => read.searchOn search
  | .terminated _ | .failed .. => solver

/-- The count of placements that a lesson can come to have: any slot or that of another lesson, a
candidate or the one at the start as room and as teacher, or none. -/
def placementBound (timetable : Timetable) (lesson : Lesson) : Nat :=
  (timetable.slots.length + timetable.lessons.length + 1) * (lesson.candidateRooms.length + 2) *
    (lesson.candidateTeachers.length + 2)

/-- The count of placements of all lessons, a bound on how often a search can improve. -/
def improvementBound (timetable : Timetable) : Nat :=
  timetable.lessons.foldr (fun lesson product => placementBound timetable lesson * product) 1

/-- The readings of a clock until a time is over, with a wide margin; none where the clock stands
still. -/
def readingBound (seconds step : Float) : Nat :=
  if 0 < step then 2 * (seconds / step).ceil.toUInt64.toNat + 16 else 0

/-- The steps that a solve takes at most, by the limits that are set. A search without a limit that
it can reach has no such bound, and zero rounds are allowed for it. -/
def stepBound (solver : Solver Source) : Nat :=
  let limits := solver.config.limits
  let rounds := match limits.moves, limits.unimprovedMoves, limits.seconds with
    | some moves, _, _ => moves.toNat
    | none, some moves, _ => moves.toNat * improvementBound solver.base
    | none, none, some seconds => readingBound seconds solver.clock.step
    | none, none, none => 0
  rounds + 4

/-- Advances while a condition holds and the solve is not over, for a count of steps at most. -/
def advanceWhile (condition : Solver Source → Bool) : Nat → Solver Source → Solver Source
  | 0, solver =>
      if solver.isOver || !condition solver then solver
      else { solver with stage := .failed solver.phase .endless }
  | steps + 1, solver =>
      if solver.isOver || !condition solver then solver
      else advanceWhile condition steps solver.advance

def runToBest (solver : Solver Source) (count : Nat) : Solver Source :=
  advanceWhile (fun state => state.published.length < count) solver.stepBound solver

def runToEnd (solver : Solver Source) : Solver Source :=
  advanceWhile (fun _ => true) solver.stepBound solver

def outcome? (solver : Solver Source) : Option (Except PlanningFault SolveResult) :=
  match solver.stage with
  | .terminated result => some (.ok result)
  | .failed _ fault => some (.error fault)
  | _ => none

/-- A whole solve. A solver that has run already is refused and does not change. -/
def solve : EStateM PlanningFault (Solver Source) SolveResult := do
  let solver ← get
  if solver.phase ≠ .idle then throw (.alreadyRan solver.base.term)
  let ended := solver.runToEnd
  set ended
  match ended.outcome? with
  | some (.ok result) => return result
  | some (.error fault) => throw fault
  | none => throw .endless

end Solver

end SchoolTimetable
