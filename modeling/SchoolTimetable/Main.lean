import SchoolTimetable.CommandLine.Run

/-!
The program: it reads the files that its arguments name, runs what they ask for in a folder of those
files, shows the lines, and writes the files that are new or have changed.
-/

namespace SchoolTimetable

/-- The clock of the program. Each look at it takes a tenth of a millisecond, about as long as a move
of the search. -/
def programClock : Clock := .ofStep 0.0001

/-- The names of files that a word may hold: the word itself, and what is attached to an option. -/
def namesIn (word : String) : List String :=
  let chars := word.toList
  match chars.dropWhile (· ≠ '=') with
  | _ :: attached => [word, String.ofList attached, String.ofList (chars.drop 2)]
  | [] => [word, String.ofList (chars.drop 2)]

/-- The folder with a file of the disk, or unchanged if there is no such text file. -/
def withFileOfDisk (folder : Folder) (name : String) : IO Folder := do
  let path := Path.ofText name
  if name.isEmpty then return folder
  try
    let text ← IO.FS.readFile path.text
    return { folder with files := Entries.put (Folder.destination path) text folder.files }
  catch _ => return folder

def writeToDisk (path : Path) (text : String) : IO Unit := do
  IO.FS.createDirAll path.parent.text
  IO.FS.writeFile path.text text

def usage : String :=
  "usage: solve INPUT [options] | validate INPUT [options] | generate OUTPUT [options] | " ++
    "view INPUT [options]"

end SchoolTimetable

open SchoolTimetable in
def main (words : List String) : IO UInt32 := do
  let folder ← (words.flatMap namesIn).foldlM withFileOfDisk ⟨[]⟩
  let (ending, console) := runCommandLine programClock folder words
  console.lines.forM IO.println
  for (path, text) in console.folder.files do
    unless Entries.get? path folder.files = some text do writeToDisk path text
  match ending with
  | .notUnderstood => IO.eprintln usage
  | .crashed crash => IO.eprintln crash.message
  | .done | .refused => pure ()
  return ending.code.toUInt32
