import SchoolTimetable.CommandLine.ColorNames
import SchoolTimetable.Record.Numeral
import SchoolTimetable.Text.LowerCase

/-!
Styles of shown text. A style is written in words: attributes, each of which may be switched off, a
colour, a colour of the background, and a link. The words may stand in any order and attributes may be
abbreviated, so that one style has several spellings and a single normal one.
-/

namespace SchoolTimetable

structure Style where
  attributes : List (String × Bool)
  color : Option String
  background : Option String
  link : Option String
deriving DecidableEq, Repr

namespace Style

def plain : Style := ⟨[], none, none, none⟩

def attributeNames : List String :=
  ["bold", "dim", "italic", "underline", "blink", "blink2", "reverse", "conceal", "strike",
    "underline2", "frame", "encircle", "overline"]

def abbreviations : List (String × String) :=
  [("b", "bold"), ("d", "dim"), ("i", "italic"), ("u", "underline"), ("r", "reverse"),
    ("c", "conceal"), ("s", "strike"), ("uu", "underline2"), ("o", "overline")]

def attribute? (word : String) : Option String :=
  if attributeNames.contains word then some word else abbreviations.lookup word

def bracketed? (word : String) (text : List Char) : Option (List Char) :=
  let opening := word.toList ++ ['(']
  if opening.isPrefixOf text && text.getLast? = some ')' && opening.length < text.length then
    some ((text.drop opening.length).dropLast)
  else none

def isByte (digits : List Char) : Bool :=
  !digits.isEmpty && digits.all Char.isDigit && Record.digitsToNat digits ≤ 255

def isHexDigit (char : Char) : Bool := char.isDigit || ('a' ≤ char && char ≤ 'f')

/-- A colour: a name, six hexadecimal digits behind a hash, a number, or the parts of red, green and
blue. -/
def isColor (word : String) : Bool :=
  let chars := word.toList
  word == "default" || colorNames.contains word ||
    (chars.head? = some '#' && chars.length = 7 && (chars.drop 1).all isHexDigit) ||
    (bracketed? "color" chars).any (fun number => isByte number && number.length ≤ 3) ||
    (bracketed? "rgb" chars).any fun parts =>
      let numbers := (String.ofList parts).splitOn ","
      numbers.length = 3 && numbers.all fun number => isByte number.toList

def lower (text : String) : String := String.ofList (Text.lowerCase text.toList)

/-- A style after further words, none if they are no style. Of two colours the last one counts. -/
def withWords? (style : Style) : List String → Option Style
  | [] => some style
  | word :: rest =>
      let keyword := lower word
      if keyword == "not" then
        match rest with
        | next :: more => do
            let name ← attribute? next
            withWords? { style with attributes := (name, false) :: style.attributes } more
        | [] => none
      else if keyword == "link" then
        match rest with
        | next :: more => withWords? { style with link := some next } more
        | [] => none
      else if keyword == "on" then
        match rest with
        | next :: more =>
            if isColor (lower next) then withWords? { style with background := some (lower next) } more
            else none
        | [] => none
      else
        match attribute? keyword with
        | some name => withWords? { style with attributes := (name, true) :: style.attributes } rest
        | none =>
            if isColor keyword then withWords? { style with color := some keyword } rest else none

def text (style : Style) : String :=
  let attributes := attributeNames.flatMap fun name =>
    match style.attributes.lookup name with
    | some true => [name]
    | some false => ["not", name]
    | none => []
  let words := attributes ++ style.color.toList ++
    (style.background.map fun color => ["on", color]).getD [] ++
    (style.link.map fun link => ["link", link]).getD []
  if words.isEmpty then "none" else " ".intercalate words

def isBlank (char : Char) : Bool :=
  Record.isSurroundingBlank char || (0x1c ≤ char.toNat && char.toNat ≤ 0x1f)

def words : List Char → List (List Char)
  | [] => []
  | char :: rest =>
      if isBlank char then words rest
      else
        match rest, words rest with
        | next :: _, word :: others =>
            if isBlank next then [char] :: word :: others else (char :: word) :: others
        | _, found => [char] :: found

def trim (text : List Char) : List Char :=
  ((text.dropWhile isBlank).reverse.dropWhile isBlank).reverse

/-- The normal spelling of a style. What is no style is spelled in lower case without blanks around
it. -/
def normalText (spelled : List Char) : String :=
  let found := (words spelled).map String.ofList
  if found = ["none"] then "none"
  else
    match plain.withWords? found with
    | some style => style.text
    | none => lower (String.ofList (trim spelled))

end Style

end SchoolTimetable
