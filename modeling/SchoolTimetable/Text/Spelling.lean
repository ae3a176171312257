import SchoolTimetable.Text.DecimalDigit
import SchoolTimetable.Text.LowerCase

/-!
Spelling of names. A name written with capitals at its word borders is respelled with underscores:
a border lies before the last capital of a run that a small letter follows, and before a capital
that follows a small letter or a digit. Then all letters become lower case.
-/

namespace SchoolTimetable.Text

/-- The ASCII capitals, the only ones that mark a word border. -/
def isCapital (char : Char) : Bool := 'A' ≤ char && char ≤ 'Z'

def isSmall (char : Char) : Bool := 'a' ≤ char && char ≤ 'z'

/-- Ends a run of capitals before its last one where a small letter follows the run. -/
def splitAcronyms : List Char → List Char
  | first :: second :: third :: rest =>
      if isCapital first && isCapital second && isSmall third then
        first :: '_' :: splitAcronyms (second :: third :: rest)
      else first :: splitAcronyms (second :: third :: rest)
  | short => short

def splitCapitals : List Char → List Char
  | first :: second :: rest =>
      if (isSmall first || isDecimalDigit first) && isCapital second then
        first :: '_' :: splitCapitals (second :: rest)
      else first :: splitCapitals (second :: rest)
  | short => short

/-- Respells a name with underscores and lower-case letters, given the lower-casing of a text. -/
def respell (lower : List Char → List Char) (name : List Char) : List Char :=
  lower (splitCapitals (splitAcronyms name))

def underscored (name : String) : String := String.ofList (respell lowerCase name.toList)

end SchoolTimetable.Text
