import SchoolTimetable.CommandLine.Arguments
import SchoolTimetable.CommandLine.Folder
import SchoolTimetable.Config
import SchoolTimetable.Sample.Settings

/-!
What a command line asks for. A command line that is not understood asks for nothing: its command or
an option is unknown, a value is missing or out of its range, or an input does not exist.
-/

namespace SchoolTimetable

/-- Settings of a solve on the command line; those that are given override the configuration. -/
structure SolveOptions where
  output : Option Path
  seconds : Option Float
  config : Option Path
  construction : Option ConstructionStrategy
  seed : Option Int
  explain : Bool
deriving Repr

def SolveOptions.override (options : SolveOptions) (config : Config) : Config :=
  { config with
    limits := match options.seconds with
      | some seconds => { config.limits with seconds := some seconds }
      | none => config.limits
    construction := options.construction.getD config.construction
    seed := options.seed <|> config.seed }

inductive ViewSelection where
  | teacher (id : String)
  | schoolClass (id : String)
  | room (id : String)
  | day (name : String)
  | violations
  | overview
deriving DecidableEq, Repr

inductive Request where
  | solve (input : Path) (options : SolveOptions)
  | validate (input : Path) (config : Option Path) (verbose : Bool)
  | generate (output : Path) (size : Sample.Size) (seed : Option Int)
  | view (input : Path) (selection : ViewSelection)
deriving Repr

namespace Request

def wholeNumber? (text : String) : Option Int :=
  match Record.wholeOfText text with
  | .ok value => some value
  | _ => none

def timeLimit? (text : String) : Option Float := do
  let seconds ← Record.numberOfText? text
  if 0.1 ≤ seconds && seconds ≤ 3600 then some seconds else none

def construction? (text : String) : Option ConstructionStrategy :=
  ConstructionStrategy.all.find? (·.text == text)

/-- The value of an option as it is understood; what is not given is none. -/
def valued? {Value : Type} (arguments : Arguments) (name : String) (read : String → Option Value) :
    Option (Option Value) :=
  match arguments.value? name with
  | none => some none
  | some text => (read text).map some

def place? (arguments : Arguments) : Option String :=
  match arguments.positional with
  | [text] => some text
  | _ => none

/-- The one place that a command is about, which has to exist. -/
def existing? (folder : Folder) (arguments : Arguments) : Option Path := do
  let text ← place? arguments
  if folder.containsText text then some (.ofText text) else none

def solveRules : List OptionRule :=
  [⟨"output", some 'o', true⟩, ⟨"timeout", some 't', true⟩, ⟨"config", some 'c', true⟩,
    ⟨"construction", none, true⟩, ⟨"seed", none, true⟩, ⟨"explain", some 'e', false⟩,
    ⟨"verbose", some 'v', false⟩]

def solve? (folder : Folder) (words : List String) : Option Request := do
  let arguments ← Arguments.read? solveRules words
  let input ← existing? folder arguments
  let seconds ← valued? arguments "timeout" timeLimit?
  let construction ← valued? arguments "construction" construction?
  let seed ← valued? arguments "seed" wholeNumber?
  some (.solve input
    { output := (arguments.value? "output").map .ofText
      seconds := seconds
      config := (arguments.value? "config").map .ofText
      construction := construction
      seed := seed
      explain := arguments.hasFlag "explain" })

def validateRules : List OptionRule := [⟨"config", some 'c', true⟩, ⟨"verbose", some 'v', false⟩]

def validate? (words : List String) : Option Request := do
  let arguments ← Arguments.read? validateRules words
  let input ← place? arguments
  some (.validate (.ofText input) ((arguments.value? "config").map .ofText)
    (arguments.hasFlag "verbose"))

def generateRules : List OptionRule := [⟨"size", some 's', true⟩, ⟨"seed", none, true⟩]

def generate? (words : List String) : Option Request := do
  let arguments ← Arguments.read? generateRules words
  let output ← place? arguments
  let size ← valued? arguments "size" Sample.Size.ofText?
  let seed ← valued? arguments "seed" wholeNumber?
  some (.generate (.ofText output) (size.getD .small) seed)

def viewRules : List OptionRule :=
  [⟨"teacher", some 'T', true⟩, ⟨"class", some 'C', true⟩, ⟨"room", some 'R', true⟩,
    ⟨"day", some 'D', true⟩, ⟨"violations", none, false⟩]

/-- The first selection that is given. One with an empty text counts as not given. -/
def selection (arguments : Arguments) : ViewSelection :=
  let given := fun (name : String) (select : String → ViewSelection) =>
    ((arguments.value? name).filter (· ≠ "")).map select
  let flagged := if arguments.hasFlag "violations" then some ViewSelection.violations else none
  (given "teacher" .teacher <|> given "class" .schoolClass <|> given "room" .room <|>
    given "day" .day <|> flagged).getD .overview

def view? (folder : Folder) (words : List String) : Option Request := do
  let arguments ← Arguments.read? viewRules words
  let input ← existing? folder arguments
  some (.view input (selection arguments))

/-- What the words of a command line ask for, none if they are not understood. -/
def read? (folder : Folder) : List String → Option Request
  | "--" :: words => command? folder words
  | words => command? folder words
where
  command? (folder : Folder) : List String → Option Request
    | "solve" :: words => solve? folder words
    | "validate" :: words => validate? words
    | "generate" :: words => generate? words
    | "view" :: words => view? folder words
    | _ => none

end Request

end SchoolTimetable
