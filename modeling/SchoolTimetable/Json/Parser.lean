import SchoolTimetable.Json.Basic
import SchoolTimetable.Number.Decimal
import SchoolTimetable.Number.Whole
import SchoolTimetable.Text.HalfPair

/-!
Reading JSON texts. Beside the standard's values the words for infinity and for what is not a
number are read. A text that is not JSON is refused with the first fault and its place, and so is one
with a whole number of too many digits or with too many levels.
-/

namespace SchoolTimetable.Json

inductive SyntaxFault where
  | expectingValue
  | expectingName
  | expectingColon
  | expectingComma
  | unterminatedText
  | controlCharacter
  | escape
  | unicodeEscape
  | extraData
  | byteOrderMark
  /-- A whole number has more digits than are read. -/
  | tooManyDigits (digits : Nat)
  /-- Lists and objects lie in each other too deep to be read. -/
  | tooDeep
deriving DecidableEq, Repr

/-- Why a text is not JSON: the fault and how many characters stand before it. -/
structure SyntaxError where
  fault : SyntaxFault
  offset : Nat
  line : Nat
  column : Nat
deriving DecidableEq, Repr

def deepestLevel : Nat := 980

def SyntaxFault.wording : SyntaxFault → String
  | .expectingValue => "Expecting value"
  | .expectingName => "Expecting property name enclosed in double quotes"
  | .expectingColon => "Expecting ':' delimiter"
  | .expectingComma => "Expecting ',' delimiter"
  | .unterminatedText => "Unterminated string starting at"
  | .controlCharacter => "Invalid control character at"
  | .escape => "Invalid \\escape"
  | .unicodeEscape => "Invalid \\uXXXX escape"
  | .extraData => "Extra data"
  | .byteOrderMark => "Unexpected UTF-8 BOM (decode using utf-8-sig)"
  | .tooManyDigits digits =>
      s!"Exceeds the limit ({Number.longestWhole} digits) for integer string conversion: value has {digits} " ++
        "digits; use sys.set_int_max_str_digits() to increase the limit"
  | .tooDeep => "Lists and objects lie too deep in each other"

/-- Whether a text is refused only because of the size of what it holds. -/
def SyntaxFault.isOfSize : SyntaxFault → Bool
  | .tooManyDigits _ => true
  | .tooDeep => true
  | _ => false

def SyntaxError.message (error : SyntaxError) : String :=
  if error.fault.isOfSize then error.fault.wording
  else s!"{error.fault.wording}: line {error.line} column {error.column} (char {error.offset})"

abbrev Fault := SyntaxFault × List Char

def SyntaxError.locate (whole : List Char) (fault : Fault) : SyntaxError :=
  let offset := whole.length - fault.2.length
  let before := whole.take offset
  { fault := fault.1
    offset := offset
    line := before.count '\n' + 1
    column := (before.reverse.takeWhile (· ≠ '\n')).length + 1 }

def isBlank (char : Char) : Bool :=
  char = ' ' || char = '\t' || char = '\n' || char = '\r'

def skipBlanks (text : List Char) : List Char := text.dropWhile isBlank

def hexValue? (char : Char) : Option Nat :=
  if '0' ≤ char ∧ char ≤ '9' then some (char.toNat - '0'.toNat)
  else if 'a' ≤ char ∧ char ≤ 'f' then some (char.toNat - 'a'.toNat + 10)
  else if 'A' ≤ char ∧ char ≤ 'F' then some (char.toNat - 'A'.toNat + 10)
  else none

def codeUnit? : List Char → Option (Nat × List Char)
  | first :: second :: third :: fourth :: next :: rest => do
      let high ← hexValue? first
      let middle ← hexValue? second
      let low ← hexValue? third
      let last ← hexValue? fourth
      some (((high * 16 + middle) * 16 + low) * 16 + last, next :: rest)
  | _ => none

def simpleEscape? (char : Char) : Option Char :=
  if char = '"' || char = '\\' || char = '/' then some char
  else if char = 'b' then some (Char.ofNat 8)
  else if char = 'f' then some (Char.ofNat 12)
  else if char = 'n' then some '\n'
  else if char = 'r' then some '\r'
  else if char = 't' then some '\t'
  else none

/-- What has been read of a text, the last first, with one more sign. -/
def keep (sign : Char ⊕ Nat) (done : List Char) : List Char := (Text.kept sign).reverse ++ done

/-- Reads a quoted text after its opening quote; `start` is the text from that quote on. Each round
takes at least one character, so the length of the text bounds the rounds. -/
def readText (start : List Char) : Nat → List Char → List Char → Except Fault (String × List Char)
  | 0, _, _ => .error (.unterminatedText, start)
  | _ + 1, _, [] => .error (.unterminatedText, start)
  | rounds + 1, done, char :: rest =>
      if char = '"' then .ok (String.ofList done.reverse, rest)
      else if char.toNat < 32 then .error (.controlCharacter, char :: rest)
      else if char = '\\' then
        match rest with
        | [] => .error (.unterminatedText, start)
        | 'u' :: digits =>
            match codeUnit? digits with
            | none => .error (.unicodeEscape, 'u' :: digits)
            | some (unit, after) =>
                match after with
                | '\\' :: 'u' :: lower =>
                    match codeUnit? lower with
                    | some (second, afterPair) =>
                        if 0xd800 ≤ unit ∧ unit < 0xdc00 ∧ 0xdc00 ≤ second ∧ second < 0xe000 then
                          let joined := 0x10000 + (unit - 0xd800) * 1024 + (second - 0xdc00)
                          readText start rounds (keep (.inl (Char.ofNat joined)) done) afterPair
                        else readText start rounds (keep (Text.ofUnit unit) done) after
                    | none => readText start rounds (keep (Text.ofUnit unit) done) after
                | _ => readText start rounds (keep (Text.ofUnit unit) done) after
        | letter :: after =>
            match simpleEscape? letter with
            | some escaped => readText start rounds (escaped :: done) after
            | none => .error (.escape, char :: rest)
      else readText start rounds (keep (.inl char) done) rest

def digitsValue (digits : List Char) : Nat :=
  digits.foldl (fun value digit => 10 * value + (digit.toNat - '0'.toNat)) 0

def markedDigits (isMark : Char → Bool) : List Char → List Char × List Char
  | mark :: rest =>
      if isMark mark && rest.head?.any Char.isDigit then
        (rest.takeWhile Char.isDigit, rest.dropWhile Char.isDigit)
      else ([], mark :: rest)
  | [] => ([], [])

def readExponent? : List Char → Option (Int × List Char)
  | mark :: rest =>
      if mark = 'e' || mark = 'E' then
        let (negative, digits) := match rest with
          | '-' :: after => (true, after)
          | '+' :: after => (false, after)
          | _ => (false, rest)
        if digits.head?.any Char.isDigit then
          let value : Int := digitsValue (digits.takeWhile Char.isDigit)
          some (if negative then -value else value, digits.dropWhile Char.isDigit)
        else none
      else none
  | [] => none

/-- Reads the number at the front of a text: whole digits without a leading zero, then optionally a
fraction and an exponent. A whole number with too many digits is a fault. -/
def readNumber? (text : List Char) : Option (Except Fault (Json × List Char)) :=
  let (negative, unsigned) := match text with
    | '-' :: rest => (true, rest)
    | _ => (false, text)
  let whole := match unsigned with
    | '0' :: rest => some (['0'], rest)
    | digit :: _ =>
        if digit.isDigit then some (unsigned.takeWhile Char.isDigit, unsigned.dropWhile Char.isDigit)
        else none
    | [] => none
  whole.map fun (digits, rest) =>
    let (fraction, afterFraction) := markedDigits (· = '.') rest
    match readExponent? afterFraction, fraction with
    | none, [] =>
        if Number.longestWhole < digits.length then .error (.tooManyDigits digits.length, text)
        else
          let value : Int := digitsValue digits
          .ok (.int (if negative then -value else value), rest)
    | exponent, _ =>
        let (power, after) := exponent.getD (0, afterFraction)
        let magnitude := Number.ofDecimal (digitsValue (digits ++ fraction)) (power - fraction.length)
        .ok (.float (if negative then -magnitude else magnitude), after)

def readWord? (text : List Char) : Option (Json × List Char) :=
  let words : List (String × Json) :=
    [("null", .null), ("true", .bool true), ("false", .bool false), ("NaN", .float (0.0 / 0.0)),
      ("Infinity", .float (1.0 / 0.0)), ("-Infinity", .float (-1.0 / 0.0))]
  words.findSome? fun (word, value) =>
    if word.toList.isPrefixOf text then some (value, text.drop word.length) else none

mutual

/-- Reads the value at the front of a text, which may have some levels. Two rounds take at least one
character, so twice the length of the text bounds the rounds. -/
def readValue : Nat → Nat → List Char → Except Fault (Json × List Char)
  | 0, _, text => .error (.expectingValue, text)
  | rounds + 1, levels, text =>
      match text with
      | '"' :: rest => (readText text rounds [] rest).map fun (read, after) => (.str read, after)
      | '[' :: rest =>
          if levels = 0 then .error (.tooDeep, text)
          else
            match skipBlanks rest with
            | ']' :: after => .ok (.arr [], after)
            | items => readItems rounds (levels - 1) [] items
      | '\x7b' :: rest =>
          if levels = 0 then .error (.tooDeep, text)
          else
            match skipBlanks rest with
            | '\x7d' :: after => .ok (.obj [], after)
            | entries => readEntries rounds (levels - 1) [] entries
      | _ =>
          match readWord? text with
          | some found => .ok found
          | none =>
              (readNumber? text).getD (.error (.expectingValue, text))

def readItems : Nat → Nat → List Json → List Char → Except Fault (Json × List Char)
  | 0, _, _, text => .error (.expectingValue, text)
  | rounds + 1, levels, done, text => do
      let (item, rest) ← readValue rounds levels text
      match skipBlanks rest with
      | ']' :: after => .ok (.arr (item :: done).reverse, after)
      | ',' :: after => readItems rounds levels (item :: done) (skipBlanks after)
      | other => .error (.expectingComma, other)

def readEntries : Nat → Nat → List (String × Json) → List Char → Except Fault (Json × List Char)
  | 0, _, _, text => .error (.expectingName, text)
  | rounds + 1, levels, done, text => do
      let .cons '"' opened := text | .error (.expectingName, text)
      let (key, rest) ← readText text rounds [] opened
      let .cons ':' afterColon := skipBlanks rest | .error (.expectingColon, skipBlanks rest)
      let (value, afterValue) ← readValue rounds levels (skipBlanks afterColon)
      match skipBlanks afterValue with
      | '\x7d' :: after => .ok (.obj (Entries.ofList ((key, value) :: done).reverse), after)
      | ',' :: after => readEntries rounds levels ((key, value) :: done) (skipBlanks after)
      | other => .error (.expectingComma, other)

end

def parse (text : String) : Except SyntaxError Json :=
  let chars := text.toList
  let read : Except Fault Json :=
    if chars.head? = some (Char.ofNat 0xfeff) then .error (.byteOrderMark, chars)
    else do
      let (value, rest) ← readValue (2 * chars.length + 2) deepestLevel (skipBlanks chars)
      match skipBlanks rest with
      | [] => .ok value
      | extra => .error (.extraData, extra)
  read.mapError (SyntaxError.locate chars)

end SchoolTimetable.Json
