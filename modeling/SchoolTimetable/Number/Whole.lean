/-!
Whole numbers as texts. Neither is a text with too many digits read, nor is such a number written.
-/

namespace SchoolTimetable.Number

/-- The digits that the text of a whole number may have. -/
def longestWhole : Nat := 4300

def wholeLimit : Nat := Nat.pow 10 longestWhole

def wholeText? (number : Int) : Option String :=
  if number.natAbs < wholeLimit then some (toString number) else none

def overlongMessage : String :=
  s!"Exceeds the limit ({longestWhole} digits) for integer string conversion; " ++
    "use sys.set_int_max_str_digits() to increase the limit"

theorem whole_text_isSome (number : Int) :
    (wholeText? number).isSome ↔ number.natAbs < wholeLimit := by
  unfold wholeText?
  split <;> simp [*]

end SchoolTimetable.Number
