import SchoolTimetable.Random.Source
import SchoolTimetable.Timetable.Director

/-!
Moves of the local search. A move changes one variable of a lesson or exchanges slot and room of two
lessons; the move that takes it back is known before it is made.
-/

namespace SchoolTimetable

inductive Move where
  | change (position : Nat) (old new : Setting)
  | swap (first second : Nat)
deriving DecidableEq, Repr

namespace Move

def ofSetting (timetable : Timetable) (position : Nat) (setting : Setting) : Move :=
  match timetable.lessons[position]? with
  | some lesson => .change position (setting.current lesson.placement) setting
  | none => .change position setting setting

/-- A lesson may be held in one of its candidate rooms, or in none where it has no candidates. -/
def roomAllowed (lesson : Lesson) : Option Room → Bool
  | none => lesson.candidateRooms.isEmpty
  | some room => lesson.candidateRooms.contains room

/-- Whether the exchange of slot and room changes two lessons and keeps their rooms allowed. -/
def swapDoable (first second : Lesson) : Bool :=
  !(first.slot == second.slot && first.room == second.room) &&
    roomAllowed first second.room && roomAllowed second first.room

def isDoable (timetable : Timetable) : Move → Bool
  | .change _ old new => old != new
  | .swap first second =>
      first != second &&
        match timetable.lessons[first]?, timetable.lessons[second]? with
        | some left, some right => swapDoable left right
        | _, _ => false

def inverse : Move → Move
  | .change position old new => .change position new old
  | .swap first second => .swap first second

/-- Makes a move. An exchange first writes the one lesson, then the other with what the first had. -/
def perform (director : Director) : Move → Except PlanningFault Director
  | .change position _ new => director.change position [new]
  | .swap first second =>
      match director.lesson? first, director.lesson? second with
      | some left, some right => do
          let half ← director.change first [.slot right.slot, .room right.room]
          half.change second [.slot left.slot, .room left.room]
      | _, _ => .ok director

def lessonId (timetable : Timetable) (position : Nat) : String :=
  (timetable.lessons[position]?.map (·.id)).getD ""

def text (timetable : Timetable) : Move → String
  | .change position old new =>
      let id := lessonId timetable position
      s!"{id}.{new.variableName}: {old.valueText} -> {new.valueText}"
  | .swap first second =>
      let left := lessonId timetable first
      let right := lessonId timetable second
      s!"{left} <-> {right}"

end Move

inductive MoveKind where
  | slot
  | swap
  | room
  | teacher
deriving DecidableEq, Repr

namespace MoveKind

def frequencies : List (MoveKind × Nat) := [(.slot, 45), (.swap, 25), (.room, 15), (.teacher, 15)]

def draw {Source : Type} [RandomSource Source] : Drawing Source MoveKind := do
  let position ← RandomSource.weighted (frequencies.map (·.2))
  match frequencies[position]? with
  | some (kind, _) => return kind
  | none => throw .nothingToChoose

end MoveKind

namespace Move

variable {Source : Type} [RandomSource Source]

/-- Picks a value for a move of a kind on a lesson. A kind that leaves no choice becomes a change of
slot. -/
def pick (timetable : Timetable) (position : Nat) (lesson : Lesson) (kind : MoveKind) :
    Drawing Source Move := do
  if kind = .room ∧ 1 < lesson.candidateRooms.length then
    let room ← RandomSource.choose lesson.candidateRooms
    return ofSetting timetable position (.room (some room))
  else if kind = .teacher ∧ 1 < lesson.candidateTeachers.length then
    let teacher ← RandomSource.choose lesson.candidateTeachers
    return ofSetting timetable position (.teacher (some teacher))
  else if kind = .swap ∧ 1 < timetable.lessons.length then
    let other ← RandomSource.choose (List.range timetable.lessons.length)
    return .swap position other
  else
    let slot ← RandomSource.choose timetable.slots
    return ofSetting timetable position (.slot (some slot))

/-- Picks a random move; none if it would change nothing or is not allowed. -/
def select (timetable : Timetable) : Drawing Source (Option Move) := do
  if timetable.lessons.isEmpty then return none
  let (lesson, position) ← RandomSource.choose timetable.lessons.zipIdx
  let kind ← MoveKind.draw
  let move ← pick timetable position lesson kind
  return if move.isDoable timetable then some move else none

end Move

end SchoolTimetable
