import SchoolTimetable.Proofs.Search.Runs

/-!
A plain search. The current assignment of all lessons is a value that never changes: a candidate is
another value, scored from scratch, and a rejected one is dropped. There is no director, no index and
nothing to take back. A plain solve makes its first assignment as any solve does and searches from there
in this way; it is what the search with a director is compared with.
-/

namespace SchoolTimetable

namespace Timetable

/-- The timetable with the placements of an assignment. -/
def holding (timetable : Timetable) (assignment : Snapshot) : Timetable :=
  { timetable with lessons := timetable.lessonsWith assignment }

def scoreOf (timetable : Timetable) (weights : Weights) (assignment : Snapshot) : Score :=
  SchoolTimetable.fullScore weights (timetable.lessonsWith assignment)

end Timetable

def Move.applied (assignment : Snapshot) : Move → Snapshot
  | .change position _ new => assignment.modify position fun placement => new.apply placement
  | .swap first second =>
      match assignment[first]?, assignment[second]? with
      | some left, some right =>
          (assignment.set first { left with slot := right.slot, room := right.room }).set second
            { right with slot := left.slot, room := left.room }
      | _, _ => assignment

structure PlainSearch (Source : Type) where
  assignment : Snapshot
  acceptor : Acceptor
  source : Source
  best : Best
  evaluated : Nat
  accepted : Nat
  unimproved : Nat

namespace PlainSearch

variable {Source : Type} (timetable : Timetable) (weights : Weights)

def start (settings : AcceptorSettings) (assignment : Snapshot) (source : Source) :
    Except PlanningFault (PlainSearch Source) := do
  let score := timetable.scoreOf weights assignment
  let acceptor ← Acceptor.ofSettings settings
  let started ← acceptor.started score
  return ⟨assignment, started, source, ⟨score, assignment, 0⟩, 0, 0, 0⟩

/-- The search that goes on from a candidate, which is remembered if it is the best so far. -/
def adopt (search : PlainSearch Source) (candidate : Snapshot) : PlainSearch Source :=
  let score := timetable.scoreOf weights candidate
  let adopted := { search with assignment := candidate, accepted := search.accepted + 1 }
  if search.best.score < score then
    { adopted with best := ⟨score, candidate, search.evaluated⟩, unimproved := 0 }
  else adopted

variable [RandomSource Source]

/-- The move that the next round finds, and the source after it was drawn. -/
def select (search : PlainSearch Source) : EStateM.Result PlanningFault Source (Option Move) :=
  (Move.select (timetable.holding search.assignment)).run search.source

def judge (search : PlainSearch Source) (candidate : Snapshot) :
    EStateM.Result PlanningFault Source Bool :=
  (search.acceptor.accepts (timetable.scoreOf weights search.assignment)
    (timetable.scoreOf weights candidate)).run search.source

def tryMove (search : PlainSearch Source) (move : Move) :
    Except PlanningFault (PlainSearch Source) :=
  let candidate := move.applied search.assignment
  match search.judge timetable weights candidate with
  | .error fault _ => throw fault
  | .ok true source => return { search with source := source }.adopt timetable weights candidate
  | .ok false source => return { search with source := source }

def endRound (search : PlainSearch Source) : Except PlanningFault (PlainSearch Source) := do
  let acceptor ← search.acceptor.stepEnded (timetable.scoreOf weights search.assignment)
  return { search with acceptor := acceptor }

/-- One round: a move is counted even where none is found. -/
def round (search : PlainSearch Source) : Except PlanningFault (PlainSearch Source) :=
  match search.select timetable with
  | .error fault _ => throw fault
  | .ok move source => do
      let counted := { search with
        source := source
        evaluated := search.evaluated + 1
        unimproved := search.unimproved + 1 }
      let tried ← match move with
        | some move => counted.tryMove timetable weights move
        | none => pure counted
      tried.endRound timetable weights

/-- Whether the next round keeps its candidate; none if it finds no move. -/
def verdict? (search : PlainSearch Source) : Option Bool :=
  match search.select timetable with
  | .ok (some move) source =>
      match { search with source := source }.judge timetable weights (move.applied search.assignment) with
      | .ok kept _ => some kept
      | .error .. => none
  | _ => none

end PlainSearch

inductive PlainStage (Source : Type) where
  | idle (source : Source)
  | constructed (assignment : Snapshot) (source : Source)
  | searching (search : PlainSearch Source)
  | terminated (result : SolveResult)
  | failed (phase : SolvePhase) (fault : PlanningFault)

structure PlainSolve (Source : Type) where
  base : Timetable
  config : Config
  placer : ExactPlacer
  cancelled : Bool
  clock : Clock
  started : Float
  published : List Best
  stage : PlainStage Source

namespace PlainSolve

variable {Source : Type}

def ofTimetableWith (placer : ExactPlacer) (timetable : Timetable) (config : Config) (clock : Clock)
    (source : Source) : PlainSolve Source :=
  ⟨timetable, config, placer, false, clock, 0, [], .idle source⟩

/-- Why the search stops now, if it does, and the clock afterwards: being cancelled comes first, then
the time, the moves and the moves without improvement. -/
def stopReason (solve : PlainSolve Source) (search : PlainSearch Source) : Option StopReason × Clock :=
  if solve.cancelled then (some .cancelled, solve.clock)
  else
    let limits := solve.config.limits
    let (late, clock) := match limits.seconds with
      | some seconds =>
          let (now, clock) := solve.clock.read
          ((seconds ≤ now - solve.started : Bool), clock)
      | none => (false, solve.clock)
    if late then (some .timeLimit, clock)
    else if limits.moves.any fun bound => bound ≤ (search.evaluated : Int) then (some .moveLimit, clock)
    else if limits.unimprovedMoves.any fun bound => bound ≤ (search.unimproved : Int) then
      (some .unimprovedLimit, clock)
    else (none, clock)

def finish (solve : PlainSolve Source) (search : PlainSearch Source) (reason : StopReason) :
    PlainSolve Source :=
  let best := search.best
  let (now, clock) := solve.clock.read
  { solve with
    clock := clock
    stage := .terminated
      { timetable := { solve.base.holding best.snapshot with score := some best.score, isFinal := true }
        score := best.score
        outcome := Solver.outcomeOf reason best.score
        reason := some reason
        construction := (solve.published.getLast?.map (·.score)).getD best.score
        evaluated := search.evaluated
        accepted := search.accepted
        elapsed := now - solve.started } }

variable [RandomSource Source]

def advance (solve : PlainSolve Source) : PlainSolve Source :=
  match solve.stage with
  | .idle source =>
      let (now, clock) := solve.clock.read
      let begun := { solve with clock := clock, started := now }
      match Solver.construct solve.placer solve.config solve.base with
      | .error fault => { begun with stage := .failed .constructing fault }
      | .ok director =>
          let assignment := director.timetable.snapshot
          let score := solve.base.scoreOf solve.config.weights assignment
          { begun with
            published := [⟨score, assignment, 0⟩]
            stage := .constructed assignment source }
  | .constructed assignment source =>
      match PlainSearch.start solve.base solve.config.weights solve.config.acceptor assignment source with
      | .error fault => { solve with stage := .failed .localSearch fault }
      | .ok search => { solve with stage := .searching search }
  | .searching search =>
      let (reason, clock) := solve.stopReason search
      let read := { solve with clock := clock }
      match reason with
      | some reason => read.finish search reason
      | none =>
          match search.round solve.base solve.config.weights with
          | .error fault => { read with stage := .failed .localSearch fault }
          | .ok next =>
              let published :=
                if search.best.score < next.best.score then next.best :: solve.published
                else solve.published
              { read with published := published, stage := .searching next }
  | .terminated _ | .failed .. => solve

def verdict? (solve : PlainSolve Source) : Option Bool :=
  match solve.stage with
  | .searching search =>
      match (solve.stopReason search).1 with
      | some _ => none
      | none => search.verdict? solve.base solve.config.weights
  | _ => none

end PlainSolve

end SchoolTimetable
