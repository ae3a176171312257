import SchoolTimetable.Entries
import SchoolTimetable.Text.Quoted

/-!
A folder of text files. Its directories are those on the way to a file, and the folder itself.
-/

namespace SchoolTimetable

/-- A place in a folder: the names on the way to it. A place that counts from the root of all folders
has a slash for its first name, and two dots lead back by one name. -/
structure Path where
  names : List String
deriving DecidableEq, Repr

namespace Path

def ofText (text : String) : Path :=
  let names := (text.splitOn "/").filter fun name => name ≠ "" && name ≠ "."
  ⟨if text.startsWith "/" then "/" :: names else names⟩

/-- The place as it is written; that of the folder itself is a dot. -/
def text (path : Path) : String :=
  match path.names with
  | [] => "."
  | "/" :: names => "/" ++ "/".intercalate names
  | names => "/".intercalate names

def parent (path : Path) : Path := ⟨path.names.dropLast⟩

def isAbove (path other : Path) : Bool :=
  path.names.isPrefixOf other.names && path.names.length < other.names.length

end Path

inductive FileFault where
  | missing (path : Path)
  | directory (path : Path)
  | notDirectory (path : Path)
  | exists (path : Path)
deriving DecidableEq, Repr

def FileFault.message : FileFault → String
  | .missing path => "[Errno 2] No such file or directory: " ++ Text.quoted path.text
  | .directory path => "[Errno 21] Is a directory: " ++ Text.quoted path.text
  | .notDirectory path => "[Errno 20] Not a directory: " ++ Text.quoted path.text
  | .exists path => "[Errno 17] File exists: " ++ Text.quoted path.text

structure Folder where
  files : List (Path × String)
deriving Repr

namespace Folder

def isFile (folder : Folder) (path : Path) : Bool := (Entries.get? path folder.files).isSome

/-- Whether a place without steps back is a directory. What lies around the folder is one. -/
def isDirectory (folder : Folder) (path : Path) : Bool :=
  path.names.all (fun name => name == "/" || name == "..") ||
    folder.files.any fun (file, _) => path.isAbove file

def isBlocked (folder : Folder) (path : Path) : Bool :=
  folder.files.any fun (file, _) => file.isAbove path

def stepBack : List String → List String
  | [] => [".."]
  | ".." :: names => ".." :: ".." :: names
  | ["/"] => ["/"]
  | _ :: names => names

/-- Follows names from a place that is given in reverse order. A step back is made from a directory. -/
def follow (folder : Folder) (path : Path) : List String → List String → Except FileFault Path
  | walked, [] => .ok ⟨walked.reverse⟩
  | walked, name :: rest =>
      if name == ".." then
        let place : Path := ⟨walked.reverse⟩
        if folder.isDirectory place then follow folder path (stepBack walked) rest
        else if folder.isFile place || folder.isBlocked place then .error (.notDirectory path)
        else .error (.missing path)
      else follow folder path (name :: walked) rest

def resolve (folder : Folder) (path : Path) : Except FileFault Path :=
  follow folder path [] path.names

def destination (path : Path) : Path :=
  ⟨(path.names.foldl (fun walked name => if name == ".." then stepBack walked else name :: walked)
    []).reverse⟩

def contains (folder : Folder) (path : Path) : Bool :=
  match folder.resolve path with
  | .ok place => folder.isFile place || folder.isDirectory place
  | .error _ => false

/-- Whether something stands at a place as it is written. Only a directory stands where the text ends
with a slash, or with a dot behind one. -/
def containsText (folder : Folder) (text : String) : Bool :=
  let path := Path.ofText text
  if text.endsWith "/" || text.endsWith "/." then (folder.resolve path).toOption.any folder.isDirectory
  else text ≠ "" && folder.contains path

def read (folder : Folder) (path : Path) : Except FileFault String :=
  match folder.resolve path with
  | .error fault => .error fault
  | .ok place =>
      match Entries.get? place folder.files with
      | some text => .ok text
      | none =>
          if folder.isDirectory place then .error (.directory path)
          else if folder.isBlocked place then .error (.notDirectory path)
          else .error (.missing path)

def write (folder : Folder) (path : Path) (text : String) : Except FileFault Folder :=
  let place := destination path
  if folder.isFile place.parent then .error (.exists path.parent)
  else if folder.isBlocked place.parent then .error (.notDirectory path.parent)
  else if folder.isDirectory place then .error (.directory path)
  else .ok { folder with files := Entries.put place text folder.files }

end Folder

end SchoolTimetable
