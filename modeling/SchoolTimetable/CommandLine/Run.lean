import SchoolTimetable.CommandLine.Display
import SchoolTimetable.CommandLine.Request
import SchoolTimetable.Random.Twister
import SchoolTimetable.Record.Quotation
import SchoolTimetable.Sample.Generator
import SchoolTimetable.Solution.Extraction
import SchoolTimetable.Timetable.Assembly

/-!
The commands: solving a term, checking its snapshot, making a sample school, and showing a solution.
A run works in a folder, shows lines, and ends as done, refused, crashed or not understood.
-/

namespace SchoolTimetable

namespace Command

def withLineFeeds : List Char → List Char
  | '\r' :: '\n' :: rest => '\n' :: withLineFeeds rest
  | '\r' :: rest => '\n' :: withLineFeeds rest
  | char :: rest => char :: withLineFeeds rest
  | [] => []

inductive FileProblem where
  | unreadable (fault : FileFault)
  | notJson (error : Json.SyntaxError)

def document (path : Path) : Command (Except FileProblem Json) := do
  match ← readFile path with
  | .error fault => return .error (.unreadable fault)
  | .ok text =>
      match Json.parse (String.ofList (withLineFeeds text.toList)) with
      | .ok found => return .ok found
      | .error error =>
          if error.fault.isOfSize then crash (.documentSize error) else return .error (.notJson error)

/-- The value of a document or its flaws. A comparison of times that cannot be made is a crash. -/
def checked {Value : Type} : Record.Checked Value → Command (Except (List Record.Issue) Value)
  | .ok value => return .ok value
  | .flawed issues => return .error issues
  | .incomparableTimes => crash .incomparableTimes

def reportText (title : String) (issues : List Record.Issue) : String :=
  "\n".intercalate (Record.report title issues)

/-- Shows why something could not be loaded and refuses the command. -/
def refuseLoading {Value : Type} (subject message : String) : Command Value := do
  sayEscaped s!"Error loading {subject}: " message
  refuse

def inputDocument (subject : String) (path : Path) : Command Json := do
  match ← document path with
  | .ok found => return found
  | .error (.unreadable fault) => crash (.file fault)
  | .error (.notJson error) => refuseLoading subject error.message

def loadProblem (path : Path) : Command Problem := do
  match ← checked (Problem.load (← inputDocument "input" path)) with
  | .ok problem => return problem
  | .error issues => refuseLoading "input" (reportText Problem.title issues)

def loadConfig : Option Path → Command Config
  | none => return .standard
  | some path => do
      match ← document path with
      | .error (.unreadable fault) => refuseLoading "config" fault.message
      | .error (.notJson error) => refuseLoading "config" error.message
      | .ok found =>
          match ← checked (Config.load found) with
          | .ok config => return config
          | .error issues => refuseLoading "config" (reportText Config.title issues)

/-- Loads a solution. A report on it is not escaped: each note is shown only where what it quotes
keeps it from being a tag. -/
def loadSolution (path : Path) : Command Solution := do
  let found ← inputDocument "solution" path
  match ← checked (Solution.read found) with
  | .ok solution => return solution
  | .error issues =>
      let report := "\n".intercalate (Record.quotingReport Solution.title found issues)
      let shown ← styled ("Error loading solution: " ++ report)
      showLines ((shown.splitOn "\n").map Record.withoutQuotation)
      refuse

/-- The timetable of a snapshot with its warnings. What stands against it is shown as a list. -/
def assembled (problem : Problem) (config : Config) : Command (Timetable × List WorkloadWarning) := do
  match problem.assemble config with
  | .ok found => return found
  | .error faults =>
      say "Problem cannot be solved:"
      faults.forM fun fault => say ("- " ++ fault.message)
      refuse

def limitText (config : Config) : String :=
  match config.limits.seconds with
  | some seconds => "timeout: " ++ Number.generalText seconds ++ "s"
  | none => "no time limit"

def solved (clock : Clock) (timetable : Timetable) (config : Config) : Command Solution := do
  let solver := Solver.ofTimetable timetable config clock (Twister.ofSeed (config.seed.getD 0))
  let solving := Solver.solve.run solver
  let found := match solving with
    | .error _ ended | .ok _ ended => ended.published
  found.forM fun best => discard (written best.score.text?)
  match solving with
  | .error fault _ => crash (.planning fault)
  | .ok result _ =>
      match result.solution config with
      | .ok solution => return solution
      | .error .overlongScore => crash .overlongNumber
      | .error (.unresolved lessons) =>
          say ("Error: " ++ lessons.message)
          refuse

/-- Solves a term and writes the solution where that is asked for. Without a feasible timetable the
command is refused in the end. -/
def solve (clock : Clock) (input : Path) (options : SolveOptions) : Command Unit := do
  say ("Loading problem from: " ++ input.text)
  let problem ← loadProblem input
  let config := options.override (← loadConfig options.config)
  let requirements := problem.requirements.length
  let hours := problem.totalHours
  let teachers := problem.teachers.length
  let rooms := problem.rooms.length
  let slots := problem.assignableSlots.length
  say (s!"Loaded: {requirements} requirements ({hours} hours), {teachers} teachers, " ++
    s!"{rooms} rooms, {slots} slots")
  say "Assembling problem..."
  let (timetable, warnings) ← assembled problem config
  warnings.forM fun warning => say ("Warning: " ++ warning.message)
  let lessons := timetable.lessons.length
  say s!"Created {lessons} lessons"
  let limit := limitText config
  say s!"Solving ({config.construction.text}, {limit})..."
  let solution ← solved clock timetable config
  showSummary solution
  if options.explain then showViolations solution 20
  if let some output := options.output then
    writeFile output (solution.text (some 2))
    say ("Solution saved to: " ++ output.text)
  unless solution.isFeasible do
    let score ← written solution.score.scoreText?
    say s!"No feasible timetable found ({score})."
    refuse

/-- Checks a snapshot: its JSON, its form, and whether it can be scheduled at all. -/
def validate (input : Path) (config : Option Path) (verbose : Bool) : Command Unit := do
  say ("Validating: " ++ input.text)
  unless (← get).folder.contains input do
    say ("Error: File not found: " ++ input.text)
    refuse
  say "1. Checking JSON syntax..."
  let found ← match ← document input with
    | .ok found => pure found
    | .error (.unreadable fault) => crash (.file fault)
    | .error (.notJson error) => do
        say ("Invalid JSON: " ++ error.message)
        refuse
  say "JSON syntax is valid"
  say "2. Validating against schema..."
  let problem ← match ← checked (Problem.load found) with
    | .ok problem => pure problem
    | .error issues => do
        say "Schema validation failed:"
        ((reportText Problem.title issues).splitOn "\n").forM fun line => sayEscaped "" line
        refuse
  say "Schema validation passed"
  say "3. Checking feasibility before solving..."
  let (timetable, warnings) ← assembled problem (← loadConfig config)
  if warnings.isEmpty then say "No feasibility issues"
  else
    say "Warnings found:"
    warnings.forM fun warning => say ("- " ++ warning.message)
  say "Summary:"
  let slots := problem.slots.length
  let assignable := problem.assignableSlots.length
  showTable []
    [["Term", problem.term], ["Teachers", toString problem.teachers.length],
      ["Classes", toString problem.classes.length], ["Subjects", toString problem.subjects.length],
      ["Rooms", toString problem.rooms.length], ["Time slots", s!"{slots} ({assignable} assignable)"],
      ["Requirements", toString problem.requirements.length],
      ["Lessons", toString timetable.lessons.length]]
  if verbose then
    say "Candidates per lesson:"
    showTable ["Lesson Teachers Rooms"]
      (timetable.lessons.map fun lesson =>
        [lesson.id, toString lesson.candidateTeachers.length, toString lesson.candidateRooms.length])
  say "Validation complete."

def generate (output : Path) (size : Sample.Size) (seed : Option Int) : Command Unit := do
  match (Sample.problem size.settings).run (Twister.ofSeed (seed.getD 0)) with
  | .error fault _ => crash (.sample fault)
  | .ok problem _ =>
      writeFile output (problem.write.text (some 2))
      let classes := problem.classes.length
      let teachers := problem.teachers.length
      let hours := problem.totalHours
      say (s!"Generated {size.text} problem: {classes} classes, {teachers} teachers, " ++
        s!"{hours} lesson-hours")
      say ("Saved to: " ++ output.text)

def view (input : Path) (selection : ViewSelection) : Command Unit := do
  let solution ← loadSolution input
  match selection with
  | .teacher id => showEntity "Teacher" id solution.views.byTeacher
  | .schoolClass id => showEntity "Class" id solution.views.byClass
  | .room id => showEntity "Room" id solution.views.byRoom
  | .day name => showDay name solution
  | .violations => showViolations solution solution.violations.length
  | .overview => showOverview solution

end Command

def Request.command (clock : Clock) : Request → Command Unit
  | .solve input options => Command.solve clock input options
  | .validate input config verbose => Command.validate input config verbose
  | .generate output size seed => Command.generate output size seed
  | .view input selection => Command.view input selection

inductive Ending where
  | done
  | refused
  | crashed (crash : Crash)
  | notUnderstood

def Ending.code : Ending → Nat
  | .done => 0
  | .refused | .crashed _ => 1
  | .notUnderstood => 2

def runCommandLine (clock : Clock) (folder : Folder) (words : List String) : Ending × Console :=
  let console : Console := ⟨folder, []⟩
  match Request.read? folder words with
  | none => (.notUnderstood, console)
  | some request =>
      match (request.command clock).run console with
      | .ok _ after => (.done, after)
      | .error .refused after => (.refused, after)
      | .error (.crashed crash) after => (.crashed crash, after)

end SchoolTimetable
