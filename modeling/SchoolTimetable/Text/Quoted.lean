import SchoolTimetable.Text.HalfPair
import SchoolTimetable.Text.HexDigits
import SchoolTimetable.Text.Printable

/-!
Quoted texts in messages. What a reader could not see or would take for the end of the text is written
with a backslash.
-/

namespace SchoolTimetable.Text

/-- A code behind a backslash: two hexadecimal digits behind an x, four behind a small and eight behind
a capital u, the fewest that hold it. -/
def quotedCode (code : Nat) : List Char :=
  if code < 0x100 then '\\' :: 'x' :: lastHexDigits 2 code
  else if code < 0x10000 then '\\' :: 'u' :: lastHexDigits 4 code
  else '\\' :: 'U' :: lastHexDigits 8 code

/-- A character of a quoted text, with a backslash where it is one, a line break, the quotation mark
itself, or not printable. -/
def quotedChar (mark char : Char) : List Char :=
  if char = '\\' || char = mark then ['\\', char]
  else if char = '\n' then ['\\', 'n']
  else if char = '\r' then ['\\', 'r']
  else if char = '\t' then ['\\', 't']
  else if isPrintable char then [char]
  else quotedCode char.toNat

def quotedSign (mark : Char) : Char ⊕ Nat → List Char
  | .inl char => quotedChar mark char
  | .inr half => quotedCode half

/-- A text in single quotation marks, or in double ones if it has single ones only. -/
def quoted (text : String) : String :=
  let chars := text.toList
  let mark := if chars.contains '\'' && !chars.contains '"' then '"' else '\''
  String.ofList (mark :: (signs chars).flatMap (quotedSign mark) ++ [mark])

end SchoolTimetable.Text
