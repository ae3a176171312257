import SchoolTimetable.Score

/-!
Why an operation on a timetable or a step of the search is refused.
-/

namespace SchoolTimetable

inductive PlanningFault where
  /-- The timetable has been reported and no longer changes. -/
  | finalTimetable (term : String)
  | unknownVariable (name : String)
  /-- A variable is named as what the change is made of or to. -/
  | takenName (name : String)
  | snapshotLength (given : Nat) (term : String) (expected : Nat)
  | noSlots (term : String)
  | noCandidateRooms (lesson : String)
  | alreadyRan (term : String)
  /-- A choice had to be made among nothing. -/
  | nothingToChoose
  /-- A source of draws that was written out beforehand has come to its end. -/
  | drawsExhausted
  | nothingToUndo
  /-- Late acceptance was asked before it was started. -/
  | emptyHistory
  | historySize
  /-- The history would have more places than memory could ever have. -/
  | historyTooLarge (size : Nat)
  /-- A whole number lies beyond the range of floating-point numbers. -/
  | beyondNumbers
  /-- A seed is not taken by the placement of all lessons at once. -/
  | seedRange
  /-- The score that was kept and the one from scratch, as texts. -/
  | scoreMismatch (incremental recalculated : String)
  /-- A score has too many digits for a text. -/
  | overlongScore
  /-- No limit is set that the search could ever reach. -/
  | endless
deriving DecidableEq, Repr

namespace PlanningFault

def greatestLength : Nat := 0x7fffffffffffffff

/-- A history that is too large has no text of its own as long as its size can be counted. -/
def message : PlanningFault → String
  | .finalTimetable term => s!"Timetable for term {term} is final"
  | .unknownVariable name => s!"'{name}' is not a planning variable"
  | .takenName name => s!"ScoreDirector.change_variables() got multiple values for argument '{name}'"
  | .snapshotLength given term expected =>
      s!"Snapshot holds {given} assignments but term {term} has {expected} lessons"
  | .noSlots term => s!"Timetable for term {term} has no assignable time slots"
  | .noCandidateRooms lesson => s!"Lesson {lesson} has no candidate rooms"
  | .alreadyRan term => s!"Solver for term {term} already ran"
  | .nothingToChoose => "Cannot choose from an empty sequence"
  | .drawsExhausted => "pop from empty list"
  | .nothingToUndo => "pop from empty list"
  | .emptyHistory => "list index out of range"
  | .historySize => "Late acceptance size must be at least 1"
  | .historyTooLarge size =>
      if size ≤ greatestLength then "" else "cannot fit 'int' into an index-sized integer"
  | .beyondNumbers => "int too large to convert to float"
  | .seedRange => "The seed of an exact placement must have 32 bits"
  | .scoreMismatch incremental recalculated =>
      s!"Incremental score {incremental} differs from recalculated {recalculated}"
  | .overlongScore => Number.overlongMessage
  | .endless => "The search has no limit that it could reach"

end PlanningFault

end SchoolTimetable
