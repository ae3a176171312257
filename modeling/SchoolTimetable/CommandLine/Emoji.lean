import SchoolTimetable.CommandLine.EmojiNames
import SchoolTimetable.CommandLine.Style
import SchoolTimetable.Text.LowerCase

/-!
Short codes for emojis in texts for the screen: a name between two colons stands for an emoji. A name
may ask for a variant of it. What no emoji has as its name is shown as it is written.
-/

namespace SchoolTimetable.Emoji

def endings : List (List Char × List Char) :=
  [(":".toList, []), ("-emoji:".toList, ['\ufe0f']), ("-text:".toList, ['\ufe0e'])]

/-- A code behind its first colon: what is written there, its name, the character that chooses the
variant, and the text that follows. -/
structure Code where
  written : List Char
  name : List Char
  variant : List Char
  rest : List Char

/-- The code behind a colon; it ends at the first place where it can, and holds no blank. -/
def codeBehindColon? : List Char → Option Code
  | [] => none
  | char :: behind =>
      match endings.find? fun (ending, _) => ending.isPrefixOf (char :: behind) with
      | some (ending, variant) =>
          some ⟨ending, [], variant, (char :: behind).drop ending.length⟩
      | none =>
          if Style.isBlank char then none
          else
            (codeBehindColon? behind).map fun code =>
              { code with written := char :: code.written, name := char :: code.name }

/-- What a code shows. Capitals in its name count as small letters. -/
def Code.shown (code : Code) : List Char :=
  match named.lookup (String.ofList (Text.lowerCase code.name)) with
  | some emoji => emoji.toList ++ code.variant
  | none => ':' :: code.written

def replaceFrom : Nat → List Char → List Char
  | 0, text => text
  | _, [] => []
  | steps + 1, char :: behind =>
      if char = ':' then
        match codeBehindColon? behind with
        | some code => code.shown ++ replaceFrom steps code.rest
        | none => ':' :: replaceFrom steps behind
      else char :: replaceFrom steps behind

def replace (text : List Char) : List Char := replaceFrom text.length text

end SchoolTimetable.Emoji
