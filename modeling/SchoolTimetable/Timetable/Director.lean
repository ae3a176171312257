import Std.Data.HashMap
import SchoolTimetable.Timetable.Evaluation

/-!
The score director keeps the score of a timetable up to date while placements change. A change takes
the lesson out of the index and its share out of the score, and puts both back with the new
placement, so that its cost depends only on the lessons that share a key with it.
-/

namespace SchoolTimetable

/-- A new value for one of the planning variables of a lesson. A name from outside may be that of no
variable. -/
inductive Setting where
  | slot (value : Option TimeSlot)
  | room (value : Option Room)
  | teacher (value : Option Teacher)
  | unknown (name : String)
deriving DecidableEq, Repr

namespace Setting

def variableName : Setting → String
  | .slot _ => "time_slot"
  | .room _ => "room"
  | .teacher _ => "teacher"
  | .unknown name => name

def current (setting : Setting) (placement : Placement) : Setting :=
  match setting with
  | .slot _ => .slot placement.slot
  | .room _ => .room placement.room
  | .teacher _ => .teacher placement.teacher
  | .unknown name => .unknown name

def apply (placement : Placement) : Setting → Placement
  | .slot value => { placement with slot := value }
  | .room value => { placement with room := value }
  | .teacher value => { placement with teacher := value }
  | .unknown _ => placement

def valueText : Setting → String
  | .slot value => (value.map (·.text)).getD "None"
  | .room value => (value.map (·.name)).getD "None"
  | .teacher value => (value.map (·.text)).getD "None"
  | .unknown _ => "None"

def argumentNames : List String := ["self", "lesson"]

def takenName? (settings : List Setting) : Option String :=
  (settings.map variableName).find? argumentNames.contains

def unknownName? (settings : List Setting) : Option String :=
  settings.findSome? fun setting =>
    match setting with
    | .unknown name => some name
    | _ => none

end Setting

structure Director where
  timetable : Timetable
  weights : Weights
  /-- The positions of the placed lessons under each of their keys; no key is kept without any. -/
  index : Std.HashMap IndexKey (List Nat)
  score : Score

namespace Director

def lesson? (director : Director) (position : Nat) : Option Lesson :=
  director.timetable.lessons[position]?

def bucket (director : Director) (key : IndexKey) : List Nat := director.index.getD key []

/-- The positions of other lessons that share a key with a lesson, each once. -/
def neighbours (director : Director) (position : Nat) (lesson : Lesson) : List Nat :=
  (lesson.indexKeys.flatMap director.bucket).eraseDups.filter (· != position)

def contribution (director : Director) (position : Nat) (lesson : Lesson) : Score :=
  lessonScore director.weights lesson +
    Score.sum ((director.neighbours position lesson).filterMap fun other =>
      (director.lesson? other).map (pairScore director.weights lesson))

def addToIndex (position : Nat) (index : Std.HashMap IndexKey (List Nat)) (key : IndexKey) :
    Std.HashMap IndexKey (List Nat) :=
  index.insert key ((index.getD key []).insert position)

def removeFromIndex (position : Nat) (index : Std.HashMap IndexKey (List Nat)) (key : IndexKey) :
    Std.HashMap IndexKey (List Nat) :=
  match (index.getD key []).erase position with
  | [] => index.erase key
  | rest => index.insert key rest

def insert (director : Director) (position : Nat) (lesson : Lesson) : Director :=
  { director with
    score := director.score + director.contribution position lesson
    index := lesson.indexKeys.foldl (addToIndex position) director.index }

def retract (director : Director) (position : Nat) (lesson : Lesson) : Director :=
  let rest := { director with
    index := lesson.indexKeys.foldl (removeFromIndex position) director.index }
  { rest with score := rest.score - rest.contribution position lesson }

def ofTimetable (timetable : Timetable) (weights : Weights) : Director :=
  timetable.lessons.zipIdx.foldl (fun director (lesson, position) => director.insert position lesson)
    ⟨timetable, weights, ∅, 0⟩

def writeLesson (director : Director) (position : Nat) (lesson : Lesson) : Director :=
  { director with
    timetable := { director.timetable with
      lessons := director.timetable.lessons.set position lesson } }

def assign (director : Director) (position : Nat) (placement : Placement) : Director :=
  match director.lesson? position with
  | none => director
  | some lesson =>
      if placement = lesson.placement then director
      else
        let moved := lesson.placed placement
        ((director.retract position lesson).writeLesson position moved).insert position moved

/-- Sets one or more planning variables of a lesson. A name that is taken is refused before a final
timetable, and this before a name that is of no variable. -/
def change (director : Director) (position : Nat) (settings : List Setting) :
    Except PlanningFault Director :=
  if let some name := Setting.takenName? settings then .error (.takenName name)
  else if director.timetable.isFinal then .error (.finalTimetable director.timetable.term)
  else
    match Setting.unknownName? settings, director.lesson? position with
    | some name, _ => .error (.unknownVariable name)
    | none, none => .ok director
    | none, some lesson =>
        .ok (director.assign position (settings.foldl Setting.apply lesson.placement))

def recalculate (director : Director) : Score := director.timetable.fullScore director.weights

def checkScore (director : Director) : Except PlanningFault Unit :=
  let expected := director.recalculate
  if director.score = expected then .ok ()
  else
    match director.score.text?, expected.text? with
    | some kept, some exact => .error (.scoreMismatch kept exact)
    | _, _ => .error .overlongScore

end Director

end SchoolTimetable
