import SchoolTimetable.Entries
import SchoolTimetable.Text.Spelling

/-!
Values of JSON documents. Whole numbers and numbers with a fraction are told apart, and the entries
of an object keep their order. Respelling its keys turns a document with capitals at the word
borders into the same document with underscores.
-/

namespace SchoolTimetable

inductive Json where
  | null
  | bool (value : Bool)
  | int (value : Int)
  | float (value : Float)
  | str (text : String)
  | arr (items : List Json)
  | obj (entries : List (String × Json))
deriving Inhabited

namespace Json

def get? (key : String) : Json → Option Json
  | .obj entries => Entries.get? key entries
  | _ => none

def ofOption {Value : Type} (write : Value → Json) : Option Value → Json
  | none => .null
  | some value => write value

def list {Value : Type} (write : Value → Json) (values : List Value) : Json :=
  .arr (values.map write)

def ofNat (value : Nat) : Json := .int value

mutual

/-- The document with every key at any depth respelled; of keys that become equal the later one
gives the value. -/
def respellKeysWith (respelled : String → String) : Json → Json
  | .arr items => .arr (respellItems respelled items)
  | .obj entries => .obj (Entries.ofList (respellEntries respelled entries))
  | plain => plain

def respellItems (respelled : String → String) : List Json → List Json
  | [] => []
  | item :: rest => respellKeysWith respelled item :: respellItems respelled rest

def respellEntries (respelled : String → String) : List (String × Json) → List (String × Json)
  | [] => []
  | (key, value) :: rest =>
      (respelled key, respellKeysWith respelled value) :: respellEntries respelled rest

end

def underscoreKeys (document : Json) : Json := respellKeysWith Text.underscored document

end Json

end SchoolTimetable
