import SchoolTimetable.Timetable.Director

/-!
First-fit construction. Lessons are placed one at a time, the most constrained first. Each goes to
the first slot, teacher and room that cost no hard point, or, where there are none, to the first of
those that score best.
-/

namespace SchoolTimetable

/-- The place of a lesson in the order of construction: few teachers, then few rooms, where none
counts as more than any, then many students, then the id. -/
structure Constrainedness where
  teachers : Nat
  rooms : Option Nat
  students : Int
  id : String
deriving DecidableEq, Repr

namespace Constrainedness

def ofLesson (lesson : Lesson) : Constrainedness :=
  { teachers := lesson.candidateTeachers.length
    rooms := if lesson.candidateRooms.isEmpty then none else some lesson.candidateRooms.length
    students := lesson.schoolClass.studentCount.getD 0
    id := lesson.id }

def roomsBefore : Option Nat → Option Nat → Bool
  | some first, some second => first < second
  | some _, none => true
  | none, _ => false

/-- The order of construction: the fields decide one after another. -/
def atMost (first second : Constrainedness) : Bool :=
  if first.teachers ≠ second.teachers then first.teachers < second.teachers
  else if first.rooms ≠ second.rooms then roomsBefore first.rooms second.rooms
  else if first.students ≠ second.students then second.students < first.students
  else decide (first.id ≤ second.id)

end Constrainedness

/-- Slots by period and then by day, which spreads the lessons of a class over the week. -/
def constructionSlots (slots : List TimeSlot) : List TimeSlot :=
  slots.mergeSort fun first second =>
    first.period < second.period || first.period == second.period && first.day ≤ second.day

def constructionOrder (lessons : List Lesson) : List Nat :=
  (lessons.zipIdx.mergeSort fun first second =>
    (Constrainedness.ofLesson first.1).atMost (Constrainedness.ofLesson second.1)).map (·.2)

/-- The teachers who may give a lesson: the candidates, or the one it has. -/
def Lesson.teacherOptions (lesson : Lesson) : List (Option Teacher) :=
  if lesson.candidateTeachers.isEmpty then [lesson.teacher] else lesson.candidateTeachers.map some

/-- The rooms a lesson may be held in, or none where it has no candidates. -/
def Lesson.roomOptions (lesson : Lesson) : List (Option Room) :=
  if lesson.candidateRooms.isEmpty then [none] else lesson.candidateRooms.map some

abbrev BestTrial := Option (Score × Placement)

/-- Whether a score is better than that of the best placement so far. -/
def BestTrial.isBeatenBy (best : BestTrial) (score : Score) : Bool :=
  match best with
  | none => true
  | some (kept, _) => kept < score

/-- How far trying placements has come: the last one fits, or all have been tried. -/
inductive Trial where
  | fits (director : Director)
  | tried (director : Director) (best : BestTrial)

def tryPlacements (position : Nat) (hard : Int) : Director → BestTrial → List Placement → Trial
  | director, best, [] => .tried director best
  | director, best, placement :: rest =>
      let next := director.assign position placement
      if hard ≤ next.score.hard then .fits next
      else
        let better := if best.isBeatenBy next.score then some (next.score, placement) else best
        tryPlacements position hard next better rest

/-- Tries pairs of slot and teacher in turn, each with all rooms. Rooms only add hard penalties, so a
pair that without a room is no better than the best placement so far is passed over. -/
def tryOptions (position : Nat) (hard : Int) (rooms : List (Option Room)) :
    Director → BestTrial → List (TimeSlot × Option Teacher) → Trial
  | director, best, [] => .tried director best
  | director, best, (slot, teacher) :: rest =>
      let bound := director.assign position ⟨some slot, none, teacher⟩
      if best.isBeatenBy bound.score then
        match tryPlacements position hard bound best
            (rooms.map fun room => ⟨some slot, room, teacher⟩) with
        | .fits next => .fits next
        | .tried next better => tryOptions position hard rooms next better rest
      else tryOptions position hard rooms bound best rest

structure FirstFit where
  director : Director
  slots : List TimeSlot
  placed : Nat

/-- An operation on a construction. Where it is refused it leaves what it had done by then. -/
abbrev Construction := EStateM PlanningFault FirstFit

namespace FirstFit

def ofDirector (director : Director) : FirstFit :=
  ⟨director, constructionSlots director.timetable.slots, 0⟩

def place (position : Nat) : Construction Score := do
  let state ← get
  let director := state.director
  match director.lesson? position with
  | none => return director.score
  | some lesson =>
      if state.slots.isEmpty then throw (.noSlots director.timetable.term)
      if director.timetable.isFinal then throw (.finalTimetable director.timetable.term)
      let options := state.slots.flatMap fun slot =>
        lesson.teacherOptions.map fun teacher => (slot, teacher)
      let next := match tryOptions position director.score.hard lesson.roomOptions director none options with
        | .fits reached => reached
        | .tried reached none => reached
        | .tried reached (some (_, placement)) => reached.assign position placement
      set { state with director := next, placed := state.placed + 1 }
      return next.score

/-- Picks a room for a lesson that has a slot. The room it had is given up first. -/
def placeRoom (position : Nat) : Construction Score := do
  let state ← get
  let director := state.director
  match director.lesson? position with
  | none => return director.score
  | some lesson =>
      if director.timetable.isFinal then throw (.finalTimetable director.timetable.term)
      let without := director.assign position { lesson.placement with room := none }
      set { state with director := without }
      let placements := lesson.candidateRooms.map fun room : Room =>
        { lesson.placement with room := some room }
      match tryPlacements position without.score.hard without none placements with
      | .fits next =>
          set { state with director := next }
          return next.score
      | .tried _ none => throw (.noCandidateRooms lesson.id)
      | .tried reached (some (_, placement)) =>
          let next := reached.assign position placement
          set { state with director := next }
          return next.score

/-- Places a lesson that has no slot, or picks a room for one that only lacks a room. -/
def complete (position : Nat) : Construction Unit := do
  match (← get).director.lesson? position with
  | none => return
  | some lesson =>
      if lesson.slot.isNone then discard <| place position
      else if lesson.room.isNone && !lesson.candidateRooms.isEmpty then discard <| placeRoom position

def completeAll : List Nat → Construction Unit
  | [] => return
  | position :: rest => do
      complete position
      completeAll rest

/-- Places every lesson without a slot, then picks rooms for those that lack only a room, all in the
order of construction. -/
def run : Construction Score := do
  completeAll (constructionOrder (← get).director.timetable.lessons)
  return (← get).director.score

end FirstFit

end SchoolTimetable
