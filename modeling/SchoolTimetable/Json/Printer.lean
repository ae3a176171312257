import SchoolTimetable.Json.Basic
import SchoolTimetable.Number.Decimal
import SchoolTimetable.Text.HalfPair
import SchoolTimetable.Text.HexDigits

/-!
Texts of JSON documents, on one line or with one entry per line and each level indented.
-/

namespace SchoolTimetable.Json

/-- A character inside a quoted text: quotes, backslashes and control characters are escaped, all others
stand for themselves. -/
def escapeChar (char : Char) : List Char :=
  if char = '"' then ['\\', '"']
  else if char = '\\' then ['\\', '\\']
  else if char = '\n' then ['\\', 'n']
  else if char = '\r' then ['\\', 'r']
  else if char = '\t' then ['\\', 't']
  else if char = Char.ofNat 8 then ['\\', 'b']
  else if char = Char.ofNat 12 then ['\\', 'f']
  else if char.toNat < 32 then '\\' :: 'u' :: Text.lastHexDigits 4 char.toNat
  else [char]

def escape : Char ⊕ Nat → List Char
  | .inl char => escapeChar char
  | .inr half => '\\' :: 'u' :: Text.lastHexDigits 4 half

def quote (text : String) : String :=
  String.ofList ('"' :: ((Text.signs text.toList).flatMap escape ++ ['"']))

/-- Where the entries of a container stand: after which text, separated by which, before which. -/
structure Layout where
  afterOpen : Nat → String
  between : Nat → String
  beforeClose : Nat → String
  afterKey : String

def Layout.compact : Layout := ⟨fun _ => "", fun _ => ",", fun _ => "", ":"⟩

def Layout.indented (width : Nat) : Layout :=
  let line := fun depth : Nat => "\n" ++ String.ofList (List.replicate (width * depth) ' ')
  ⟨fun depth => line (depth + 1), fun depth => "," ++ line (depth + 1), line, ": "⟩

mutual

def textAt (layout : Layout) (depth : Nat) : Json → String
  | .null => "null"
  | .bool value => if value then "true" else "false"
  | .int value => toString value
  | .float value => Number.documentText value
  | .str text => quote text
  | .arr [] => "[]"
  | .arr (item :: rest) =>
      "[" ++ layout.afterOpen depth ++ textAt layout (depth + 1) item ++
        itemsText layout depth rest ++ layout.beforeClose depth ++ "]"
  | .obj [] => "\x7b\x7d"
  | .obj ((key, value) :: rest) =>
      "\x7b" ++ layout.afterOpen depth ++ quote key ++ layout.afterKey ++
        textAt layout (depth + 1) value ++ entriesText layout depth rest ++
        layout.beforeClose depth ++ "\x7d"

def itemsText (layout : Layout) (depth : Nat) : List Json → String
  | [] => ""
  | item :: rest =>
      layout.between depth ++ textAt layout (depth + 1) item ++ itemsText layout depth rest

def entriesText (layout : Layout) (depth : Nat) : List (String × Json) → String
  | [] => ""
  | (key, value) :: rest =>
      layout.between depth ++ quote key ++ layout.afterKey ++ textAt layout (depth + 1) value ++
        entriesText layout depth rest

end

def text (indent : Option Nat) (document : Json) : String :=
  match indent with
  | none => textAt .compact 0 document
  | some width => textAt (.indented width) 0 document

end SchoolTimetable.Json
