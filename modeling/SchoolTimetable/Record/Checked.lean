import SchoolTimetable.ClockTime
import SchoolTimetable.Json.Basic

/-!
Outcomes of checking a document. A document is accepted with a value, or refused with every flaw
found in it, each with the path to its place.
-/

namespace SchoolTimetable.Record

inductive Step where
  | field (name : String)
  | item (index : Nat)
deriving DecidableEq, Repr

inductive Flaw where
  | missing
  | unexpected
  | notRecord (title : String)
  | notMapping
  | notList
  | tooFewItems (least : Nat)
  | notText
  | notCharacters
  | textTooShort (least : Nat)
  | textTooLong (greatest : Nat)
  | notWhole
  | wholeText
  | wholeTextSize
  | wholeFraction
  | notFinite
  | notNumber
  | numberText
  | notTruth
  | truthText
  | notMember (texts : List String)
  | notTime
  | noTime (fault : ClockTime.Fault)
  | below (least : Int)
  | above (greatest : Int)
  | notAbove (bound : Int)
  | notBelow (bound : Int)
  | rule (reason : String)
deriving DecidableEq, Repr

structure Issue where
  path : List Step
  flaw : Flaw
deriving DecidableEq, Repr

inductive Checked (Value : Type) where
  | ok (value : Value)
  | flawed (issues : List Issue)
  /-- A check had to compare a time that has a zone with one that has none. -/
  | incomparableTimes
deriving DecidableEq, Repr

namespace Checked

def flaw {Value : Type} (flaw : Flaw) : Checked Value := .flawed [⟨[], flaw⟩]

def ofOption {Value : Type} (flaw : Flaw) : Option Value → Checked Value
  | some value => .ok value
  | none => .flaw flaw

def map {First Second : Type} (convert : First → Second) : Checked First → Checked Second
  | .ok value => .ok (convert value)
  | .flawed issues => .flawed issues
  | .incomparableTimes => .incomparableTimes

/-- Combines two outcomes; the flaws of both are kept, those of the first in front. -/
def both {First Second : Type} (first : Checked First) (second : Checked Second) :
    Checked (First × Second) :=
  match first, second with
  | .incomparableTimes, _ => .incomparableTimes
  | _, .incomparableTimes => .incomparableTimes
  | .ok left, .ok right => .ok (left, right)
  | .ok _, .flawed issues => .flawed issues
  | .flawed issues, .ok _ => .flawed issues
  | .flawed issues, .flawed more => .flawed (issues ++ more)

instance : Functor Checked := ⟨map, fun value => map fun _ => value⟩

instance : Applicative Checked where
  pure := .ok
  seq convert outcome := map (fun (apply, value) => apply value) (both convert (outcome ()))

def andThen {First Second : Type} (outcome : Checked First) (check : First → Checked Second) :
    Checked Second :=
  match outcome with
  | .ok value => check value
  | .flawed issues => .flawed issues
  | .incomparableTimes => .incomparableTimes

def within {Value : Type} (step : Step) : Checked Value → Checked Value
  | .ok value => .ok value
  | .flawed issues => .flawed (issues.map fun issue => { issue with path := step :: issue.path })
  | .incomparableTimes => .incomparableTimes

def all {Value : Type} : List (Checked Value) → Checked (List Value)
  | [] => .ok []
  | outcome :: rest => (both outcome (all rest)).map fun (value, values) => value :: values

end Checked

def Flaw.kind : Flaw → String
  | .missing => "missing"
  | .unexpected => "extra_forbidden"
  | .notRecord _ => "model_type"
  | .notMapping => "dict_type"
  | .notList => "list_type"
  | .tooFewItems _ => "too_short"
  | .notText => "string_type"
  | .notCharacters => "string_unicode"
  | .textTooShort _ => "string_too_short"
  | .textTooLong _ => "string_too_long"
  | .notWhole => "int_type"
  | .wholeText => "int_parsing"
  | .wholeTextSize => "int_parsing_size"
  | .wholeFraction => "int_from_float"
  | .notFinite => "finite_number"
  | .notNumber => "float_type"
  | .numberText => "float_parsing"
  | .notTruth => "bool_type"
  | .truthText => "bool_parsing"
  | .notMember _ => "enum"
  | .notTime => "time_type"
  | .noTime _ => "time_parsing"
  | .below _ => "greater_than_equal"
  | .above _ => "less_than_equal"
  | .notAbove _ => "greater_than"
  | .notBelow _ => "less_than"
  | .rule _ => "value_error"

def counted (count : Nat) (noun : String) : String :=
  if count = 1 then s!"{count} {noun}" else s!"{count} {noun}s"

/-- Alternatives as a phrase: all but the last are separated by commas. -/
def alternatives : List String → String
  | [] => ""
  | [only] => only
  | [first, last] => s!"{first} or {last}"
  | first :: rest => s!"{first}, {alternatives rest}"

def Flaw.message : Flaw → String
  | .missing => "Field required"
  | .unexpected => "Extra inputs are not permitted"
  | .notRecord title => s!"Input should be a valid dictionary or instance of {title}"
  | .notMapping => "Input should be a valid dictionary"
  | .notList => "Input should be a valid list"
  | .tooFewItems least =>
      let items := counted least "item"
      s!"List should have at least {items} after validation, not 0"
  | .notText => "Input should be a valid string"
  | .notCharacters => "Input should be a valid string, unable to parse raw data as a unicode string"
  | .textTooShort least =>
      let characters := counted least "character"
      s!"String should have at least {characters}"
  | .textTooLong greatest =>
      let characters := counted greatest "character"
      s!"String should have at most {characters}"
  | .notWhole => "Input should be a valid integer"
  | .wholeText => "Input should be a valid integer, unable to parse string as an integer"
  | .wholeTextSize => "Unable to parse input string as an integer, exceeded maximum size"
  | .wholeFraction => "Input should be a valid integer, got a number with a fractional part"
  | .notFinite => "Input should be a finite number"
  | .notNumber => "Input should be a valid number"
  | .numberText => "Input should be a valid number, unable to parse string as a number"
  | .notTruth => "Input should be a valid boolean"
  | .truthText => "Input should be a valid boolean, unable to interpret input"
  | .notMember texts => "Input should be " ++ alternatives (texts.map fun text => "'" ++ text ++ "'")
  | .notTime => "Input should be a valid time"
  | .noTime fault => "Input should be in a valid time format, " ++ fault.message
  | .below least => s!"Input should be greater than or equal to {least}"
  | .above greatest => s!"Input should be less than or equal to {greatest}"
  | .notAbove bound => s!"Input should be greater than {bound}"
  | .notBelow bound => s!"Input should be less than {bound}"
  | .rule reason => s!"Value error, {reason}"

def Step.text : Step → String
  | .field name => name
  | .item index => toString index

/-- A report on the flaws of a document: their count, then for each its path, where it has one, and
its sentence with a note. -/
def reportWith (title : String) (note : Issue → String) (issues : List Issue) : List String :=
  (counted issues.length "validation error" ++ " for " ++ title) ::
    issues.flatMap fun issue =>
      let sentence := "  " ++ issue.flaw.message ++ " " ++ note issue
      if issue.path.isEmpty then [sentence]
      else [".".intercalate (issue.path.map Step.text), sentence]

def report (title : String) (issues : List Issue) : List String :=
  reportWith title (fun issue => s!"[type={issue.flaw.kind}]") issues

end SchoolTimetable.Record
