/-!
Words of a command line. An option is written as its name behind two dashes or as its letter behind
one; its value follows as the next word or, behind an equals sign or the letter, in the same word.
Letters of flags may share a word. Two dashes alone end the options.
-/

namespace SchoolTimetable

/-- An option that a command knows; without a value it is a flag. -/
structure OptionRule where
  name : String
  letter : Option Char
  hasValue : Bool
deriving DecidableEq, Repr

/-- The words of a command, told apart. Options are named without dashes, the last one in front. -/
structure Arguments where
  positional : List String
  flags : List String
  values : List (String × String)
deriving DecidableEq, Repr

namespace Arguments

def empty : Arguments := ⟨[], [], []⟩

def withFlags (arguments : Arguments) (names : List String) : Arguments :=
  { arguments with flags := names ++ arguments.flags }

def withValue (arguments : Arguments) (name value : String) : Arguments :=
  { arguments with values := (name, value) :: arguments.values }

def withPositional (arguments : Arguments) (words : List String) : Arguments :=
  { arguments with positional := arguments.positional ++ words }

/-- The value of an option, the last one if it is given repeatedly. -/
def value? (arguments : Arguments) (name : String) : Option String := arguments.values.lookup name

def hasFlag (arguments : Arguments) (name : String) : Bool := arguments.flags.contains name

/-- What a word of options sets: flags, and at its end the name of an option with its value, which is
none where the value is the next word. -/
structure OptionWord where
  flags : List String
  valued : Option (String × Option String)

def ofLetters? (rules : List OptionRule) : List Char → Option OptionWord
  | [] => some ⟨[], none⟩
  | letter :: rest => do
      let rule ← rules.find? fun rule => rule.letter = some letter
      if rule.hasValue then
        some ⟨[], some (rule.name, if rest.isEmpty then none else some (String.ofList rest))⟩
      else
        let others ← ofLetters? rules rest
        some { others with flags := rule.name :: others.flags }

/-- An option by its name, with all that stands behind the first equals sign as its value. -/
def ofName? (rules : List OptionRule) (text : List Char) : Option OptionWord := do
  let name := String.ofList (text.takeWhile (· ≠ '='))
  let attached := match text.dropWhile (· ≠ '=') with
    | [] => none
    | _ :: value => some (String.ofList value)
  let rule ← rules.find? fun rule => rule.name = name
  if rule.hasValue then some ⟨[], some (name, attached)⟩
  else if attached.isNone then some ⟨[name], none⟩
  else none

/-- A word that starts with a dash and is more than that; none for all other words. -/
def optionWord? (rules : List OptionRule) (word : String) : Option (Option OptionWord) :=
  match word.toList with
  | '-' :: '-' :: name => some (ofName? rules name)
  | '-' :: letter :: letters => some (ofLetters? rules (letter :: letters))
  | _ => none

/-- Reads the words behind those already read, none if an option is unknown, lacks its value or has
one that it does not take. -/
def readFrom (rules : List OptionRule) (arguments : Arguments) : List String → Option Arguments
  | [] => some arguments
  | "--" :: rest => some (arguments.withPositional rest)
  | word :: rest =>
      match optionWord? rules word with
      | none => readFrom rules (arguments.withPositional [word]) rest
      | some none => none
      | some (some option) =>
          let flagged := arguments.withFlags option.flags
          match option.valued with
          | none => readFrom rules flagged rest
          | some (name, some value) => readFrom rules (flagged.withValue name value) rest
          | some (name, none) =>
              match rest with
              | value :: more => readFrom rules (flagged.withValue name value) more
              | [] => none

def read? (rules : List OptionRule) (words : List String) : Option Arguments :=
  readFrom rules empty words

end Arguments

end SchoolTimetable
