import SchoolTimetable.Record.Form

/-!
Settings of a solve. Every setting has a default, so that an empty document is a working
configuration.
-/

namespace SchoolTimetable

open Record

inductive ConstructionStrategy where
  | firstFit
  | exact
deriving DecidableEq, Repr

def ConstructionStrategy.text : ConstructionStrategy → String
  | .firstFit => "first_fit"
  | .exact => "cp_sat"

def ConstructionStrategy.all : List ConstructionStrategy := [.firstFit, .exact]

inductive AcceptorKind where
  | lateAcceptance
  | simulatedAnnealing
  | hillClimbing
deriving DecidableEq, Repr

def AcceptorKind.text : AcceptorKind → String
  | .lateAcceptance => "late_acceptance"
  | .simulatedAnnealing => "simulated_annealing"
  | .hillClimbing => "hill_climbing"

/-- The weights of the soft constraints; a weight of zero switches its constraint off. -/
structure Weights where
  preferredSlot : Int
  gap : Int
  distribution : Int
  firstPeriod : Int
deriving DecidableEq, Repr

namespace Weights

def standard : Weights := ⟨1, 1, 2, 1⟩

def form : Form Weights :=
  Weights.mk <$> Form.optional "teacher_preferred_slot" standard.preferredSlot (wholeFrom 0) <*>
    Form.optional "teacher_gap" standard.gap (wholeFrom 0) <*>
    Form.optional "subject_distribution" standard.distribution (wholeFrom 0) <*>
    Form.optional "class_teacher_first_period" standard.firstPeriod (wholeFrom 0)

def read : Reader Weights := form.closed "ConstraintWeights"

def write (weights : Weights) : Json :=
  .obj [("teacher_preferred_slot", .int weights.preferredSlot), ("teacher_gap", .int weights.gap),
    ("subject_distribution", .int weights.distribution),
    ("class_teacher_first_period", .int weights.firstPeriod)]

end Weights

/-- When the local search stops: after a time, after moves without a new best, after all moves. -/
structure Limits where
  seconds : Option Float
  unimprovedMoves : Option Int
  moves : Option Int
deriving Repr

namespace Limits

def standard : Limits := ⟨some 30, some 20000, none⟩

def bounded (limits : Limits) : Checked Limits :=
  if limits.seconds.isNone && limits.unimprovedMoves.isNone && limits.moves.isNone then
    .flaw (.rule "At least one termination limit must be set")
  else .ok limits

def form : Form Limits :=
  Limits.mk <$> Form.optional "time_limit_seconds" standard.seconds (nullable positive) <*>
    Form.optional "unimproved_move_limit" standard.unimprovedMoves (nullable (wholeFrom 1)) <*>
    Form.optional "move_limit" standard.moves (nullable (wholeFrom 0))

def read : Reader Limits := fun document => (form.closed "TerminationConfig" document).andThen bounded

def write (limits : Limits) : Json :=
  .obj [("time_limit_seconds", .ofOption .float limits.seconds),
    ("unimproved_move_limit", .ofOption .int limits.unimprovedMoves),
    ("move_limit", .ofOption .int limits.moves)]

end Limits

structure AcceptorSettings where
  kind : AcceptorKind
  historySize : Int
  startingTemperature : Float
  coolingRate : Float
  hardWeight : Int
deriving Repr

namespace AcceptorSettings

def standard : AcceptorSettings := ⟨.lateAcceptance, 400, 2, 0.9995, 1000⟩

def kindReader : Reader AcceptorKind :=
  member ([.lateAcceptance, .simulatedAnnealing, .hillClimbing].map fun kind : AcceptorKind =>
    (kind.text, kind))

def form : Form AcceptorSettings :=
  AcceptorSettings.mk <$> Form.optional "type" standard.kind kindReader <*>
    Form.optional "late_acceptance_size" standard.historySize (wholeFrom 1) <*>
    Form.optional "starting_temperature" standard.startingTemperature positive <*>
    Form.optional "cooling_rate" standard.coolingRate properFraction <*>
    Form.optional "hard_weight" standard.hardWeight (wholeFrom 1)

def read : Reader AcceptorSettings := form.closed "AcceptorConfig"

def write (settings : AcceptorSettings) : Json :=
  .obj [("type", .str settings.kind.text), ("late_acceptance_size", .int settings.historySize),
    ("starting_temperature", .float settings.startingTemperature),
    ("cooling_rate", .float settings.coolingRate), ("hard_weight", .int settings.hardWeight)]

end AcceptorSettings

structure Config where
  construction : ConstructionStrategy
  exactSeconds : Float
  limits : Limits
  acceptor : AcceptorSettings
  weights : Weights
  allowUnresourced : Bool
  seed : Option Int
deriving Repr

namespace Config

def standard : Config := ⟨.firstFit, 10, .standard, .standard, .standard, false, none⟩

def form : Form Config :=
  Config.mk <$>
    Form.optional "construction" standard.construction
      (member (ConstructionStrategy.all.map fun strategy => (strategy.text, strategy))) <*>
    Form.optional "cp_sat_time_limit_seconds" standard.exactSeconds positive <*>
    Form.optional "termination" standard.limits Limits.read <*>
    Form.optional "acceptor" standard.acceptor AcceptorSettings.read <*>
    Form.optional "weights" standard.weights Weights.read <*>
    Form.optional "allow_unresourced" standard.allowUnresourced truth <*>
    Form.optional "random_seed" standard.seed (nullable whole)

def title : String := "SolverConfig"

def read : Reader Config := form.closed title

def load : Reader Config := fun document => read document.underscoreKeys

def write (config : Config) : Json :=
  .obj [("construction", .str config.construction.text),
    ("cp_sat_time_limit_seconds", .float config.exactSeconds),
    ("termination", config.limits.write), ("acceptor", config.acceptor.write),
    ("weights", config.weights.write), ("allow_unresourced", .bool config.allowUnresourced),
    ("random_seed", .ofOption .int config.seed)]

end Config

end SchoolTimetable
