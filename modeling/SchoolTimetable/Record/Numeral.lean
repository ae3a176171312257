import SchoolTimetable.Record.Checked
import SchoolTimetable.Number.Decimal

/-!
Numbers written as texts. Blanks around a numeral, a plus sign, zeros in front, a fraction of zeros and
underscores between digits do not change the whole number that it stands for.
-/

namespace SchoolTimetable.Record

def isSurroundingBlank (char : Char) : Bool :=
  let code := char.toNat
  (9 ≤ code && code ≤ 13) || code == 0x20 || code == 0x85 || code == 0xa0 || code == 0x1680 ||
    (0x2000 ≤ code && code ≤ 0x200a) || code == 0x2028 || code == 0x2029 || code == 0x202f ||
    code == 0x205f || code == 0x3000

def trimBlanks (text : List Char) : List Char :=
  ((text.dropWhile isSurroundingBlank).reverse.dropWhile isSurroundingBlank).reverse

/-- A text without its underscores, if each of them stands between two other characters. -/
def joinDigitGroups? (text : List Char) : Option (List Char) :=
  let alone := text.head? ≠ some '_' && text.getLast? ≠ some '_' &&
    !(text.zip text.tail).any fun (first, second) => first = '_' && second = '_'
  if alone then some (text.filter (· ≠ '_')) else none

def readSign : List Char → Bool × List Char
  | '-' :: rest => (true, rest)
  | '+' :: rest => (false, rest)
  | text => (false, text)

def digitsToNat (digits : List Char) : Nat :=
  digits.foldl (fun value digit => 10 * value + (digit.toNat - '0'.toNat)) 0

/-- A minus sign or a digit other than zero, with which the significant part of a numeral starts. -/
def isSignificant (char : Char) : Bool := char = '-' || ('1' ≤ char && char ≤ '9')

/-- What follows a zero and further zeros and underscores. The last of them stays in front of a point
and at the end of a numeral. -/
def significantBehind? (last : Char) : List Char → Option (List Char)
  | [] => some [last]
  | char :: rest =>
      if char = '0' || char = '_' then significantBehind? char rest
      else if isSignificant char then some (char :: rest)
      else if char = '.' then some (last :: char :: rest)
      else none

/-- The significant part of a numeral without blanks and plus sign. -/
def significant? : List Char → Option (List Char)
  | [] => none
  | first :: rest =>
      if first = '0' then significantBehind? first rest
      else if isSignificant first then some (first :: rest)
      else none

def dropZeroFraction (text : List Char) : List Char :=
  let fraction := (text.dropWhile (· ≠ '.')).drop 1
  if !fraction.isEmpty && fraction.all (· = '0') then text.takeWhile (· ≠ '.') else text

def bareNumeral? (text : String) : Option (List Char) := do
  let trimmed := trimBlanks text.toList
  let unsigned := match trimmed with
    | '+' :: rest => if rest.head? = some '-' then [] else rest
    | _ => trimmed
  let bare := dropZeroFraction (← significant? unsigned)
  some ((joinDigitGroups? bare).getD bare)

def longestNumeral : Nat := 4300

/-- The length of a bare numeral from which on underscores may stand anywhere behind its first digit.
In a shorter one they only stand between two digits. -/
def looseNumeral : Nat := 19

def wholeOfBare? (bare : List Char) : Option Int :=
  let (negative, unsigned) := match bare with
    | '-' :: rest => (true, rest)
    | _ => (false, bare)
  let digits :=
    if looseNumeral ≤ bare.length && unsigned.head? ≠ some '_' then unsigned.filter (· ≠ '_')
    else unsigned
  if !digits.isEmpty && digits.all Char.isDigit then
    let value : Int := digitsToNat digits
    some (if negative then -value else value)
  else none

def wholeOfText (text : String) : Checked Int :=
  match bareNumeral? text with
  | none => .flaw .wholeText
  | some bare =>
      if longestNumeral < (String.ofList bare).utf8ByteSize then .flaw .wholeTextSize
      else .ofOption .wholeText (wholeOfBare? bare)

def magnitudeOfText? (text : List Char) : Option Float :=
  let word := String.ofList (text.map Char.toLower)
  if word == "inf" || word == "infinity" then some (1.0 / 0.0)
  else if word == "nan" then some (0.0 / 0.0)
  else
    let whole := text.takeWhile Char.isDigit
    let afterWhole := text.dropWhile Char.isDigit
    let (fraction, afterFraction) := match afterWhole with
      | '.' :: rest => (rest.takeWhile Char.isDigit, rest.dropWhile Char.isDigit)
      | _ => ([], afterWhole)
    if whole.isEmpty && fraction.isEmpty then none
    else
      let exponent : Option Int := match afterFraction with
        | [] => some 0
        | mark :: rest =>
            let (negative, digits) := readSign rest
            if (mark = 'e' || mark = 'E') && !digits.isEmpty && digits.all Char.isDigit then
              let value : Int := digitsToNat digits
              some (if negative then -value else value)
            else none
      exponent.map fun power =>
        Number.ofDecimal (digitsToNat (whole ++ fraction)) (power - fraction.length)

def numberOfNumeral? (text : List Char) : Option Float :=
  let (negative, unsigned) := readSign text
  (magnitudeOfText? unsigned).map fun magnitude => if negative then -magnitude else magnitude

/-- The number that a text stands for. It may have blanks around it or underscores in it, not both. -/
def numberOfText? (text : String) : Option Float :=
  let chars := text.toList
  numberOfNumeral? (trimBlanks chars) <|> (joinDigitGroups? chars).bind numberOfNumeral?

end SchoolTimetable.Record
