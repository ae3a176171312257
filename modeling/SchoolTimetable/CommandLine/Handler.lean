import SchoolTimetable.CommandLine.Style

/-!
Handlers that a tag names. A handler is a name, with or without arguments in brackets; the arguments, or
what stands in place of a name, are constants: numbers, quoted texts, the constant words, and tuples of
constants.
-/

namespace SchoolTimetable.Handler

def isNameChar (char : Char) : Bool :=
  char.isAlphanum || char = '_' || char = '.' || 0xaa ≤ char.toNat

def isGap (char : Char) : Bool :=
  char = ' ' || char = '\t' || char = '\n' || char = '\r' || char = Char.ofNat 12

def skipGaps (text : List Char) : List Char := text.dropWhile isGap

/-- What follows the end of a quoted text on one line. A backslash takes the next character with it. -/
def afterQuote? (mark : Char) : List Char → Option (List Char)
  | '\\' :: _ :: rest => afterQuote? mark rest
  | char :: rest =>
      if char = mark then some rest else if char = '\n' then none else afterQuote? mark rest
  | [] => none

/-- The digits of a whole number have no zero in front, unless all are zeros. -/
def isWholeNumeral (text : List Char) : Bool :=
  !text.isEmpty && text.all Char.isDigit && (text.head? ≠ some '0' || text.all (· = '0'))

/-- A number without a sign, with a point or an exponent where it is not whole. -/
def isNumeral (text : List Char) : Bool :=
  isWholeNumeral text ||
    ((text.contains '.' || text.contains 'e' || text.contains 'E') &&
      text.head?.any (fun char => char.isDigit || char = '.') && (Record.magnitudeOfText? text).isSome)

def afterNumeral? (text : List Char) : Option (List Char) :=
  let run := text.takeWhile isNameChar
  let rest := text.dropWhile isNameChar
  let (whole, after) := match rest with
    | sign :: more =>
        if (run.getLast? = some 'e' || run.getLast? = some 'E') && (sign = '-' || sign = '+') then
          (run ++ sign :: more.takeWhile isNameChar, more.dropWhile isNameChar)
        else (run, rest)
    | [] => (run, rest)
  if isNumeral whole then some after else none

def constantWords : List String := ["True", "False", "None", "..."]

mutual

/-- What follows a constant at the front of a text. Each round takes at least one character, so the
length of the text bounds the rounds. -/
def afterConstant? : Nat → List Char → Option (List Char)
  | 0, _ => none
  | rounds + 1, text =>
      match text with
      | '(' :: rest =>
          match skipGaps rest with
          | ')' :: after => some after
          | items => afterItems? rounds items
      | '-' :: rest | '+' :: rest => afterNumeral? (skipGaps rest)
      | char :: rest =>
          if char = '\'' || char = '"' then
            match afterQuote? char rest with
            | none => none
            | some after =>
                match skipGaps after with
                | '\'' :: more => afterConstant? rounds ('\'' :: more)
                | '"' :: more => afterConstant? rounds ('"' :: more)
                | _ => some after
          else if constantWords.contains (String.ofList (text.takeWhile isNameChar)) then
            some (text.dropWhile isNameChar)
          else afterNumeral? text
      | [] => none

def afterItems? : Nat → List Char → Option (List Char)
  | 0, _ => none
  | rounds + 1, text =>
      match afterConstant? rounds text with
      | none => none
      | some after =>
          match skipGaps after with
          | ')' :: rest => some rest
          | ',' :: rest =>
              match skipGaps rest with
              | ')' :: behind => some behind
              | items => afterItems? rounds items
          | _ => none

end

def isConstant (text : List Char) : Bool :=
  (afterConstant? (2 * text.length + 1) text).any fun after => (skipGaps after).isEmpty

def isHandler (text : List Char) : Bool :=
  let trimmed := Style.trim text
  match trimmed.dropWhile isNameChar with
  | [] => true
  | '(' :: rest =>
      if rest.getLast? = some ')' && !rest.contains '\n' then isConstant ('(' :: rest)
      else isConstant trimmed
  | _ => isConstant trimmed

end SchoolTimetable.Handler
