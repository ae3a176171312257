import SchoolTimetable.ClockTime
import SchoolTimetable.Record.Numeral
import SchoolTimetable.Text.HalfPair

/-!
Readers of document values. Values are read leniently: a number may be written as a text, a truth
value as a number or a word. A form describes the fields of a record, which are read in the order
they are declared in; a closed form refuses all other fields, after the declared ones.
-/

namespace SchoolTimetable.Record

abbrev Reader (Value : Type) := Json → Checked Value

/-- Reads a text that has to consist of characters: one with half of a pair is refused. -/
def characters {Value : Type} (read : String → Checked Value) (text : String) : Checked Value :=
  if Text.hasHalf text then .flaw .notCharacters else read text

/-- A whole number of 64 bits with its sign. -/
def isWord (value : Int) : Bool := -9223372036854775808 ≤ value && value ≤ 9223372036854775807

/-- The whole number that a number without a fraction stands for. The least of 64 bits is refused with
those that take more. -/
def wholeOfNumber (value : Float) : Checked Int :=
  if value.isNaN || value.isInf then .flaw .notFinite
  else
    match Number.toInt? value with
    | some exact =>
        if isWord exact && isWord (exact - 1) then .ok exact else .flaw .wholeTextSize
    | none => .flaw .wholeFraction

/-- A whole number; a number without a fraction, a truth value or a text may stand for it. -/
def whole : Reader Int
  | .int value => .ok value
  | .bool value => .ok (if value then 1 else 0)
  | .float value => wholeOfNumber value
  | .str text => characters wholeOfText text
  | _ => .flaw .notWhole

def atLeast (least : Int) (value : Int) : Checked Int :=
  if value < least then .flaw (.below least) else .ok value

def atMost (greatest : Int) (value : Int) : Checked Int :=
  if greatest < value then .flaw (.above greatest) else .ok value

/-- A whole number that is not below a bound. -/
def wholeFrom (least : Int) : Reader Int := fun value => (whole value).andThen (atLeast least)

def wholeBetween (least greatest : Int) : Reader Int := fun value =>
  ((whole value).andThen (atMost greatest)).andThen (atLeast least)

def number : Reader Float
  | .float value => .ok value
  | .int value =>
      match Number.ofInt? value with
      | some nearest => .ok nearest
      | none => .flaw .notNumber
  | .bool value => .ok (if value then 1 else 0)
  | .str text => characters (fun text => .ofOption .numberText (numberOfText? text)) text
  | _ => .flaw .notNumber

def positive : Reader Float := fun value =>
  (number value).andThen fun read => if 0 < read then .ok read else .flaw (.notAbove 0)

/-- A number above zero and below one; what is not a number is neither. -/
def properFraction : Reader Float := fun value =>
  (number value).andThen fun read =>
    if read < 1 then if 0 < read then .ok read else .flaw (.notAbove 0)
    else .flaw (.notBelow 1)

def truthWords : List String := ["1", "t", "true", "y", "yes", "on"]

def falsehoodWords : List String := ["0", "f", "false", "n", "no", "off"]

def truthOfWhole (value : Int) : Checked Bool :=
  if value = 1 then .ok true
  else if value = 0 then .ok false
  else if isWord value then .flaw .truthText
  else .flaw .notTruth

def truthOfText (text : String) : Checked Bool :=
  let word := String.ofList (text.toList.map Char.toLower)
  if truthWords.contains word then .ok true
  else if falsehoodWords.contains word then .ok false
  else .flaw .truthText

def truth : Reader Bool
  | .bool value => .ok value
  | .int value => truthOfWhole value
  | .float value =>
      match wholeOfNumber value with
      | .ok exact => truthOfWhole exact
      | _ => .flaw .notTruth
  | .str text => characters truthOfText text
  | _ => .flaw .notTruth

def text : Reader String
  | .str text => .ok text
  | _ => .flaw .notText

def nonemptyText : Reader String := fun value =>
  (text value).andThen <| characters fun read =>
    if read.isEmpty then .flaw (.textTooShort 1) else .ok read

def shortText (greatest : Nat) : Reader String := fun value =>
  (text value).andThen <| characters fun read =>
    if greatest < Text.size read then .flaw (.textTooLong greatest) else .ok read

def nullable {Value : Type} (read : Reader Value) : Reader (Option Value)
  | .null => .ok none
  | value => (read value).map some

def member {Value : Type} (texts : List (String × Value)) : Reader Value
  | .str text =>
      characters (fun text => .ofOption (.notMember (texts.map (·.1))) (texts.lookup text)) text
  | _ => .flaw (.notMember (texts.map (·.1)))

/-- The time of day that was found, or a flaw that says why there is none. -/
def foundTime : Except ClockTime.Fault ClockTime → Checked ClockTime
  | .ok time => .ok time
  | .error fault => .flaw (.noTime fault)

/-- A time of day as a text, or as the number of seconds since midnight in universal time. -/
def clockTime : Reader ClockTime
  | .str text => characters (fun text => foundTime (ClockTime.ofText text)) text
  | .int value =>
      if (Number.ofInt? value).isSome then foundTime (ClockTime.ofSeconds value 0)
      else .flaw .notTime
  | .float value =>
      if value.isNaN then .flaw (.noTime .notNumber)
      else
        match Number.toInt? value.floor with
        | some second =>
            let micros := ((value - value.toInt64.toFloat).abs * 1000000).round
            foundTime (ClockTime.ofSeconds second micros.toUInt64.toNat)
        | none => .flaw (.noTime (if value < 0 then .negative else .pastMidnight))
  | _ => .flaw .notTime

def listOf {Value : Type} (read : Reader Value) : Reader (List Value)
  | .arr items => .all (items.mapIdx fun index item => (read item).within (.item index))
  | _ => .flaw .notList

def nonemptyListOf {Value : Type} (read : Reader Value) : Reader (List Value) := fun value =>
  (listOf read value).andThen fun items =>
    if items.isEmpty then .flaw (.tooFewItems 1) else .ok items

/-- A mapping with its entries in order; of entries whose keys are read as equal the last gives the
value. -/
def mappingOf {Key Value : Type} [DecidableEq Key] (readKey : Reader Key) (read : Reader Value) :
    Reader (List (Key × Value))
  | .obj entries =>
      (Checked.all (entries.map fun (key, value) =>
        ((readKey (.str key)).within (.field "[key]")).both (read value)
          |>.within (.field key))).map Entries.ofList
  | _ => .flaw .notMapping

/-- The fields of a record: the names that belong to them, and how they are read. -/
structure Form (Value : Type) where
  names : List String
  read : List (String × Json) → Checked Value

namespace Form

instance : Applicative Form where
  pure value := ⟨[], fun _ => .ok value⟩
  seq convert form :=
    ⟨convert.names ++ (form ()).names, fun entries => convert.read entries <*> (form ()).read entries⟩

/-- The entry of a field that may be written under several names, the first of them first. -/
def find? (names : List String) (entries : List (String × Json)) : Option (String × Json) :=
  names.findSome? fun name => (Entries.get? name entries).map fun value => (name, value)

/-- A field that has to be there, under its first name or one of the others. It is missed under its
first name. -/
def requiredAs {Value : Type} (name : String) (others : List String) (read : Reader Value) :
    Form Value :=
  ⟨name :: others, fun entries =>
    match find? (name :: others) entries with
    | some (found, value) => (read value).within (.field found)
    | none => .flawed [⟨[.field name], .missing⟩]⟩

/-- A field under one of several names that has a value of its own where it is not written. -/
def optionalAs {Value : Type} (name : String) (others : List String) (absent : Value)
    (read : Reader Value) : Form Value :=
  ⟨name :: others, fun entries =>
    match find? (name :: others) entries with
    | some (found, value) => (read value).within (.field found)
    | none => .ok absent⟩

def required {Value : Type} (name : String) (read : Reader Value) : Form Value :=
  requiredAs name [] read

def optional {Value : Type} (name : String) (absent : Value) (read : Reader Value) : Form Value :=
  optionalAs name [] absent read

def lenient {Value : Type} (title : String) (form : Form Value) : Reader Value
  | .obj entries => form.read entries
  | _ => .flaw (.notRecord title)

def refuseOthers {Value : Type} (form : Form Value) (entries : List (String × Json)) : Checked Unit :=
  let unknown := entries.filter fun entry => !form.names.contains entry.1
  if unknown.isEmpty then .ok ()
  else .flawed (unknown.map fun entry => ⟨[.field entry.1], .unexpected⟩)

/-- Reads a record and refuses fields it does not have. A name with half of a pair is the only flaw
of a record that has one. -/
def closed {Value : Type} (title : String) (form : Form Value) : Reader Value
  | .obj entries =>
      match form.read entries with
      | .incomparableTimes => .incomparableTimes
      | read =>
          if entries.any fun entry => Text.hasHalf entry.1 then .flaw .notCharacters
          else (read.both (form.refuseOthers entries)).map (·.1)
  | _ => .flaw (.notRecord title)

end Form

end SchoolTimetable.Record
