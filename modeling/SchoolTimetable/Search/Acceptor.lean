import SchoolTimetable.Config
import SchoolTimetable.Number.Decimal
import SchoolTimetable.Random.Source

/-!
Acceptors decide whether the search keeps a move, given the score before and after it. All keep moves
that do not worsen the score; they differ in which others they keep.
-/

namespace SchoolTimetable

inductive Acceptor where
  | hillClimbing
  /-- Keeps what is at least as good as the score some steps ago; the cells hold the scores of the last
  steps, the next one to be replaced first. -/
  | lateAcceptance (size : Nat) (cells : Array Score) (next : Nat)
  /-- Keeps what is worse by chance, the less likely the worse it is and the lower the temperature. -/
  | simulatedAnnealing (start cooling : Float) (hardWeight : Int) (temperature : Float)

namespace Acceptor

def leastTemperature : Float := 1e-6

/-- The greatest size of a history. Each place takes eight bytes, and all of them have to be counted. -/
def greatestHistory : Nat := PlanningFault.greatestLength / 8

def lateAcceptanceOf (size : Int) : Except PlanningFault Acceptor :=
  if size < 1 then .error .historySize else .ok (.lateAcceptance size.toNat #[] 0)

def ofSettings (settings : AcceptorSettings) : Except PlanningFault Acceptor :=
  match settings.kind with
  | .lateAcceptance => lateAcceptanceOf settings.historySize
  | .simulatedAnnealing =>
      .ok (.simulatedAnnealing settings.startingTemperature settings.coolingRate settings.hardWeight
        settings.startingTemperature)
  | .hillClimbing => .ok .hillClimbing

/-- Begins a phase with a score, which fills the whole history. -/
def started (score : Score) : Acceptor → Except PlanningFault Acceptor
  | .hillClimbing => .ok .hillClimbing
  | .lateAcceptance size _ _ =>
      if greatestHistory < size then .error (.historyTooLarge size)
      else .ok (.lateAcceptance size (Array.replicate size score) 0)
  | .simulatedAnnealing start cooling hardWeight _ =>
      .ok (.simulatedAnnealing start cooling hardWeight start)

def flatten (hardWeight : Int) (score : Score) : Int := score.hard * hardWeight + score.soft

/-- The chance with which a loss is kept at a temperature, unless the loss is too great for a
number. -/
def chance? (loss : Int) (temperature : Float) : Option Float :=
  (Number.ofInt? (-loss)).map fun value => (value / temperature).exp

def accepts {Source : Type} [RandomSource Source] (acceptor : Acceptor) (current candidate : Score) :
    Drawing Source Bool :=
  if current ≤ candidate then return true
  else
    match acceptor with
    | .hillClimbing => return false
    | .lateAcceptance _ cells next =>
        match cells[next]? with
        | some past => return decide (past ≤ candidate)
        | none => throw .emptyHistory
    | .simulatedAnnealing _ _ hardWeight temperature =>
        let loss := flatten hardWeight current - flatten hardWeight candidate
        if loss ≤ 0 then return true
        else do
          let drawn ← RandomSource.fraction
          match chance? loss temperature with
          | some bound => return decide (drawn < bound)
          | none => throw .beyondNumbers

/-- The product of a temperature and the cooling rate, but not below the least temperature. -/
def cooled (temperature cooling : Float) : Float :=
  let lower := temperature * cooling
  if leastTemperature < lower then lower else leastTemperature

def stepEnded (current : Score) : Acceptor → Except PlanningFault Acceptor
  | .hillClimbing => .ok .hillClimbing
  | .lateAcceptance size cells next =>
      if next < cells.size then
        .ok (.lateAcceptance size (cells.setIfInBounds next current) ((next + 1) % size))
      else .error .emptyHistory
  | .simulatedAnnealing start cooling hardWeight temperature =>
      .ok (.simulatedAnnealing start cooling hardWeight (cooled temperature cooling))

def temperature? : Acceptor → Option Float
  | .simulatedAnnealing _ _ _ temperature => some temperature
  | _ => none

end Acceptor

end SchoolTimetable
