/-!
The weekly calendar: names of days, keys of slot positions, and the alternation of A and B weeks.
-/

namespace SchoolTimetable

inductive WeekPattern where
  | every
  | a
  | b
deriving DecidableEq, Repr, Inhabited

namespace WeekPattern

def all : List WeekPattern := [.every, .a, .b]

def text : WeekPattern → String
  | .every => "EVERY"
  | .a => "A"
  | .b => "B"

def ofText? (text : String) : Option WeekPattern := all.find? (·.text == text)

def overlaps (first second : WeekPattern) : Bool :=
  first == .every || second == .every || first == second

theorem of_text_text (pattern : WeekPattern) : ofText? pattern.text = some pattern := by
  cases pattern <;> decide

theorem overlaps_comm (first second : WeekPattern) : first.overlaps second = second.overlaps first := by
  cases first <;> cases second <;> rfl

end WeekPattern

/-- The key of a slot position, under which availability is recorded. -/
def slotKey (day period : Int) : String := s!"{day}-{period}"

def weekdayNames : List String := ["Monday", "Tuesday", "Wednesday", "Thursday", "Friday"]

/-- The name of a day; days outside the school week are numbered. -/
def dayName (day : Int) : String :=
  if 0 ≤ day then weekdayNames.getD day.toNat s!"Day {day}" else s!"Day {day}"

end SchoolTimetable
