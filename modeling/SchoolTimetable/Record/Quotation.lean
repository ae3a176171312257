import SchoolTimetable.Number.Decimal
import SchoolTimetable.Record.Checked
import SchoolTimetable.Text.Quoted

/-!
Reports that quote. Beside what is wrong they quote the value that is meant, abridged where it is
long, and name its type.
-/

namespace SchoolTimetable

/-- Quotations write numbers from 0.0001 up to below 10 ^ 16 without an exponent, and the exponent of
all others with its sign and at least two digits. -/
def quotedStyle : Number.NumberStyle :=
  { leastPositional := -4
    greatestPositional := 15
    exponentText := fun exponent =>
      let digits := toString exponent.natAbs
      (if exponent < 0 then "e-" else "e+") ++ (if digits.length < 2 then "0" else "") ++ digits }

def quotedNumber (value : Float) : String :=
  match Number.Dyadic.ofFloat? value with
  | none => if value.isNaN then "nan" else if value < 0 then "-inf" else "inf"
  | some exact => (if exact.negative then "-" else "") ++ exact.shortest.text quotedStyle

namespace Json

mutual

def quoted : Json → String
  | .null => "None"
  | .bool value => if value then "True" else "False"
  | .int value => toString value
  | .float value => quotedNumber value
  | .str text => Text.quoted text
  | .arr items => "[" ++ ", ".intercalate (quotedItems items) ++ "]"
  | .obj entries => "\x7b" ++ ", ".intercalate (quotedEntries entries) ++ "\x7d"

def quotedItems : List Json → List String
  | [] => []
  | item :: rest => quoted item :: quotedItems rest

def quotedEntries : List (String × Json) → List String
  | [] => []
  | (key, value) :: rest => (Text.quoted key ++ ": " ++ quoted value) :: quotedEntries rest

end

def typeName : Json → String
  | .null => "NoneType"
  | .bool _ => "bool"
  | .int _ => "int"
  | .float _ => "float"
  | .str _ => "str"
  | .arr _ => "list"
  | .obj _ => "dict"

end Json

namespace Record

def takeBytes : Nat → List Char → List Char
  | _, [] => []
  | bytes, char :: rest =>
      if char.utf8Size ≤ bytes then char :: takeBytes (bytes - char.utf8Size) rest else []

/-- Of a text of more than 50 bytes the first 25 and the last 24. -/
def abridged (text : String) : String :=
  if text.utf8ByteSize ≤ 50 then text
  else
    let chars := text.toList
    String.ofList (takeBytes 25 chars ++ ['.', '.', '.'] ++ (takeBytes 24 chars.reverse).reverse)

/-- The value at the end of a path, as far as the path leads into a document. A path to a key ends in
a step that is no field; its value is the key. -/
def valueAt : List Step → Json → Json
  | [], value => value
  | [.field name, .field "[key]"], _ => .str name
  | .field name :: rest, value =>
      match value.get? name with
      | some inner => valueAt rest inner
      | none => value
  | .item index :: rest, value =>
      match value with
      | .arr items =>
          match items[index]? with
          | some inner => valueAt rest inner
          | none => value
      | _ => value

/-- The kind of a flaw with a quotation: of the value at its place or, where that is missing, of what
it is missing from. -/
def Issue.quotingNote (document : Json) (issue : Issue) : String :=
  let value := valueAt issue.path document
  let text := abridged value.quoted
  s!"[type={issue.flaw.kind}, input_value={text}, input_type={value.typeName}]"

def quotingReport (title : String) (document : Json) (issues : List Issue) : List String :=
  reportWith title (Issue.quotingNote document) issues

def withoutQuotation (line : String) : String :=
  match line.splitOn ", input_value=" with
  | before :: behind :: more =>
      if (", input_value=".intercalate (behind :: more)).contains ']' then before ++ "]" else line
  | _ => line

end Record

end SchoolTimetable
