import SchoolTimetable.CommandLine.Emoji
import SchoolTimetable.CommandLine.Handler
import SchoolTimetable.CommandLine.Style
import SchoolTimetable.Text.Spelling

/-!
Texts for the screen may hold tags, words in brackets that style what stands between them. Showing a
text leaves the tags out; a closing tag has to match one that is open. A tag behind an odd number of
backslashes is no tag but stands for itself, which is how any text can be escaped.
-/

namespace SchoolTimetable.Markup

def startsTag (char : Char) : Bool :=
  Text.isSmall char || char == '#' || char == '/' || char == '@'

/-- The tag whose opening bracket stands in front of a text, and what follows its closing bracket. -/
def tagBehindBracket? : List Char → Option (List Char × List Char)
  | [] => none
  | first :: rest =>
      let isInside := fun char : Char => char ≠ '[' && char ≠ ']'
      match rest.dropWhile isInside with
      | ']' :: after =>
          if startsTag first then some (first :: rest.takeWhile isInside, after) else none
      | _ => none

/-- A part of a text: characters that are shown, or the inside of a tag. -/
inductive Piece where
  | plain (text : List Char)
  | tag (inside : List Char)
deriving DecidableEq, Repr

def unescapeBrackets : List Char → List Char
  | '\\' :: '[' :: rest => '[' :: unescapeBrackets rest
  | char :: rest => char :: unescapeBrackets rest
  | [] => []

/-- Characters between tags, given in reverse order, as a piece. -/
def plainPiece (reversed : List Char) : List Piece :=
  if reversed.isEmpty then [] else [.plain (unescapeBrackets reversed.reverse)]

/-- The pieces of a text behind characters that stand after the last tag, given in reverse order. Of
the backslashes in front of a tag half are shown. Each step takes at least one character. -/
def piecesFrom : Nat → List Char → List Char → List Piece
  | 0, reversed, text => plainPiece (text.reverse ++ reversed)
  | steps + 1, reversed, text =>
      let slashes := text.takeWhile (· = '\\')
      match text.dropWhile (· = '\\') with
      | '[' :: behind =>
          match tagBehindBracket? behind with
          | some (inside, after) =>
              let halved := slashes.take (slashes.length / 2)
              let shown := if halved.isEmpty then [] else [Piece.plain halved]
              let piece := if slashes.length % 2 = 1 then .plain ('[' :: inside ++ [']']) else .tag inside
              plainPiece reversed ++ shown ++ piece :: piecesFrom steps [] after
          | none => piecesFrom steps ('[' :: slashes ++ reversed) behind
      | char :: behind => piecesFrom steps (char :: slashes ++ reversed) behind
      | [] => plainPiece (slashes ++ reversed)

def pieces (text : List Char) : List Piece := piecesFrom text.length [] text

/-- A tag that is open: its style in the normal spelling, and what stands behind an equals sign. -/
structure OpenTag where
  style : String
  value : Option (List Char)
deriving DecidableEq, Repr

/-- A tag that names a handler can only be closed if what it names is one. -/
def OpenTag.isClosable (tag : OpenTag) : Bool :=
  if tag.style.startsWith "@" then
    match tag.value with
    | some value => value.isEmpty || Handler.isHandler value
    | none => true
  else true

/-- Tags that are open, the last one in front. -/
abbrev OpenTags := List OpenTag

def OpenTags.close? (opened : OpenTags) (tag : OpenTag) : Option OpenTags :=
  if tag.isClosable then some (opened.erase tag) else none

/-- The open tags after a further tag. A slash alone closes the last one and a slash with a style the
last one of that style; none where there is no such tag. -/
def OpenTags.after? (opened : OpenTags) (inside : List Char) : Option OpenTags :=
  let value := match inside.dropWhile (· ≠ '=') with
    | _ :: value => some value
    | [] => none
  match inside.takeWhile (· ≠ '=') with
  | '/' :: spelled =>
      let closed := if (Style.trim spelled).isEmpty then opened.head?
        else opened.find? fun tag => tag.style == Style.normalText (Style.trim spelled)
      closed.bind opened.close?
  | spelled => some (⟨Style.normalText spelled, value⟩ :: opened)

/-- What pieces show where some tags are open. Codes for emojis are replaced in each piece. -/
def showPieces : OpenTags → List Piece → Option (List Char)
  | _, [] => some []
  | opened, .plain text :: rest => (showPieces opened rest).map (Emoji.replace text ++ ·)
  | opened, .tag inside :: rest => (opened.after? inside).bind fun next => showPieces next rest

/-- What a text shows without its tags, none if one of them closes nothing. -/
def shown? (text : String) : Option String :=
  (showPieces [] (pieces text.toList)).map String.ofList

def escapeFrom : Nat → List Char → List Char
  | 0, text => text
  | steps + 1, text =>
      let slashes := text.takeWhile (· = '\\')
      match text.dropWhile (· = '\\') with
      | '[' :: behind =>
          match tagBehindBracket? behind with
          | some (tag, after) => slashes ++ slashes ++ '\\' :: '[' :: tag ++ ']' :: escapeFrom steps after
          | none => slashes ++ '[' :: escapeFrom steps behind
      | char :: behind => slashes ++ char :: escapeFrom steps behind
      | [] => slashes

/-- Puts backslashes in front of every tag, so that it is shown as it is written. A single backslash
at the end is doubled. -/
def escape (text : String) : String :=
  let chars := text.toList
  let escaped := escapeFrom chars.length chars
  match escaped.reverse with
  | ['\\'] => String.ofList (escaped ++ ['\\'])
  | '\\' :: other :: _ => String.ofList (if other = '\\' then escaped else escaped ++ ['\\'])
  | _ => String.ofList escaped

def withStyle (style text : String) : String := "[" ++ style ++ "]" ++ text ++ "[/" ++ style ++ "]"

end SchoolTimetable.Markup
