import SchoolTimetable.CommandLine.Folder
import SchoolTimetable.CommandLine.Markup
import SchoolTimetable.Json.Parser
import SchoolTimetable.Sample.Drawing
import SchoolTimetable.Timetable.Fault

/-!
The console of a command: the folder it works in and the lines it has shown. Lines are plain: blanks
are single, none stands at either end, and a line without anything else is not shown. Panels and
tables are laid out without frames.
-/

namespace SchoolTimetable

inductive Crash where
  | markup
  | incomparableTimes
  /-- What a document holds is too large to be read. -/
  | documentSize (error : Json.SyntaxError)
  | file (fault : FileFault)
  | planning (fault : PlanningFault)
  | overlongNumber
  | sample (fault : Sample.SampleFault)

def Crash.message : Crash → String
  | .markup => "A closing tag closes nothing"
  | .incomparableTimes => "A time with a zone cannot be compared with one that has none"
  | .documentSize error => error.message
  | .file fault => fault.message
  | .planning fault => fault.message
  | .overlongNumber => Number.overlongMessage
  | .sample _ => "No sample school can be made"

inductive Halt where
  | refused
  | crashed (crash : Crash)

structure Console where
  folder : Folder
  lines : List String
deriving Repr

/-- A step of a command. What was shown and written before it stays, also where it halts. -/
abbrev Command := EStateM Halt Console

namespace Console

/-- Characters that move the cursor or ring and are never shown. -/
def isUnshown (char : Char) : Bool :=
  let code := char.toNat
  code == 7 || code == 8 || code == 11 || code == 12 || code == 13

/-- Characters that end a line: line feeds, and what separates lines, paragraphs and records. -/
def isLineEnd (char : Char) : Bool :=
  let code := char.toNat
  code == 0xa || (0x1c ≤ code && code ≤ 0x1e) || code == 0x85 || code == 0x2028 || code == 0x2029

def isSpacing (char : Char) : Bool :=
  Style.isBlank char || (0x2500 ≤ char.toNat && char.toNat ≤ 0x257f)

def words : List Char → List (List Char)
  | [] => []
  | char :: rest =>
      if isSpacing char then words rest
      else
        match rest, words rest with
        | [], _ => [[char]]
        | next :: _, found =>
            if isSpacing next then [char] :: found
            else
              match found with
              | word :: others => (char :: word) :: others
              | [] => [[char]]

def plainLine (line : String) : String :=
  " ".intercalate ((words (line.toList.filter (!isUnshown ·))).map String.ofList)

/-- The console after further lines; those without a word are not shown. -/
def showLines (console : Console) (lines : List String) : Console :=
  let shown := lines.flatMap fun line => (line.splitToList isLineEnd).map plainLine
  { console with lines := console.lines ++ shown.filter (· ≠ "") }

end Console

namespace Command

def refuse {Value : Type} : Command Value := throw .refused

def crash {Value : Type} (crash : Crash) : Command Value := throw (.crashed crash)

/-- The text of a number or score, which may have too many digits for one. -/
def written (text? : Option String) : Command String :=
  match text? with
  | some text => return text
  | none => crash .overlongNumber

def showLines (lines : List String) : Command Unit := modify fun console => console.showLines lines

def styled (text : String) : Command String :=
  match Markup.shown? text with
  | some shown => return shown
  | none => crash .markup

def say (text : String) : Command Unit := do
  showLines ((← styled text).splitOn "\n")

def sayEscaped (heading text : String) : Command Unit := say (heading ++ Markup.escape text)

/-- The lines of a row: the cells side by side, the lines of each one below the other. -/
def rowLines (cells : List String) : List String :=
  let columns := cells.map (·.splitOn "\n")
  let height := columns.foldr (fun column height => max column.length height) 0
  (List.range height).map fun index =>
    " ".intercalate (columns.map fun column => column.getD index "")

/-- Shows a table under its heading lines. Nothing of it is shown if a cell cannot be styled. -/
def showTable (headings : List String) (rows : List (List String)) : Command Unit := do
  let cells ← rows.mapM fun row => row.mapM styled
  showLines (headings ++ cells.flatMap rowLines)

/-- Shows a panel: its title, its text and, if there is one, its subtitle. -/
def showPanel (title text : String) (subtitle : Option String) : Command Unit := do
  let onLine := fun shown : String => " ".intercalate (shown.splitOn "\n")
  let heading ← styled title
  let body ← styled text
  let footing ← styled (subtitle.getD "")
  showLines (onLine heading :: body.splitOn "\n" ++ [onLine footing])

def readFile (path : Path) : Command (Except FileFault String) := do
  return (← get).folder.read path

def writeFile (path : Path) (text : String) : Command Unit := do
  let console ← get
  match console.folder.write path text with
  | .ok folder => set { console with folder := folder }
  | .error fault => crash (.file fault)

end Command

end SchoolTimetable
