import SchoolTimetable.Search.Acceptor
import SchoolTimetable.Search.Move

/-!
Local search. Each round picks a random move, makes it, and takes it back unless the acceptor keeps
it. The best placements seen are remembered as a snapshot with their score.
-/

namespace SchoolTimetable

/-- A best placement of all lessons, with the count of moves evaluated until it was found. -/
structure Best where
  score : Score
  snapshot : Snapshot
  moves : Nat
deriving DecidableEq, Repr

structure LocalSearch (Source : Type) where
  director : Director
  acceptor : Acceptor
  source : Source
  /-- The score of the working timetable. -/
  current : Score
  best : Best
  evaluated : Nat
  accepted : Nat
  /-- The count of moves evaluated since the last improvement. -/
  unimproved : Nat

namespace LocalSearch

variable {Source : Type} [RandomSource Source]

def start (settings : AcceptorSettings) (director : Director) (source : Source) :
    Except PlanningFault (LocalSearch Source) := do
  let acceptor ← Acceptor.ofSettings settings
  let started ← acceptor.started director.score
  return { director := director
           acceptor := started
           source := source
           current := director.score
           best := ⟨director.score, director.timetable.snapshot, 0⟩
           evaluated := 0
           accepted := 0
           unimproved := 0 }

def keep (search : LocalSearch Source) (director : Director) : LocalSearch Source :=
  let kept := { search with
    director := director
    current := director.score
    accepted := search.accepted + 1 }
  if search.best.score < director.score then
    { kept with
      best := ⟨director.score, director.timetable.snapshot, search.evaluated⟩
      unimproved := 0 }
  else kept

def tryMove (search : LocalSearch Source) (move : Move) : Except PlanningFault (LocalSearch Source) := do
  let moved ← move.perform search.director
  match (search.acceptor.accepts search.current moved.score).run search.source with
  | .error fault _ => throw fault
  | .ok true source => return { search with source := source }.keep moved
  | .ok false source => do
      let back ← move.inverse.perform moved
      return { search with source := source, director := back }

def endRound (search : LocalSearch Source) : Except PlanningFault (LocalSearch Source) := do
  let acceptor ← search.acceptor.stepEnded search.current
  return { search with acceptor := acceptor }

/-- One round: a move is counted even where none is found. -/
def round (search : LocalSearch Source) : Except PlanningFault (LocalSearch Source) :=
  match (Move.select search.director.timetable).run search.source with
  | .error fault _ => throw fault
  | .ok move source => do
      let counted := { search with
        source := source
        evaluated := search.evaluated + 1
        unimproved := search.unimproved + 1 }
      let tried ← match move with
        | some move => counted.tryMove move
        | none => pure counted
      tried.endRound

end LocalSearch

end SchoolTimetable
