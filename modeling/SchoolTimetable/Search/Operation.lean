import SchoolTimetable.Search.FirstFit
import SchoolTimetable.Search.Move

/-!
Operations on a director as they happen, one write after the other. An operation that is refused leaves behind
what it had written by then.
-/

namespace SchoolTimetable

abbrev Operation := EStateM PlanningFault Director

namespace Operation

/-- Refuses the first name that is taken by what a change is made of or to. -/
def checkArguments (settings : List Setting) : Operation Unit := do
  if let some name := Setting.takenName? settings then throw (.takenName name)

def checkOpen : Operation Unit := do
  let timetable := (← get).timetable
  if timetable.isFinal then throw (.finalTimetable timetable.term)

def checkNames : List Setting → Operation Unit
  | [] => return
  | .unknown name :: _ => throw (.unknownVariable name)
  | _ :: rest => checkNames rest

def writePlacement (position : Nat) (change : Placement → Placement) : Operation Unit := do
  let director ← get
  match director.lesson? position with
  | some lesson => set (director.writeLesson position (lesson.placed (change lesson.placement)))
  | none => return

def writeSettings (position : Nat) : List Setting → Operation Unit
  | [] => return
  | setting :: rest => do
      writePlacement position (Setting.apply · setting)
      writeSettings position rest

/-- Sets planning variables of a lesson, after all checks. Nothing is written if all of them have their
values already. -/
def setVariables (position : Nat) (settings : List Setting) : Operation Score := do
  checkArguments settings
  checkOpen
  checkNames settings
  match (← get).lesson? position with
  | some lesson =>
      if settings.all fun setting => setting.current lesson.placement == setting then
        return (← get).score
      modify fun director => director.retract position lesson
      writeSettings position settings
      modify fun director => (director.lesson? position).elim director (director.insert position)
      return (← get).score
  | none => return (← get).score

def setVariable (position : Nat) (setting : Setting) : Operation Score :=
  setVariables position [setting]

/-- Makes a move. An exchange is two changes, one after the other. -/
def makeMove : Move → Operation Score
  | .change position _ new => setVariable position new
  | .swap first second => do
      let director ← get
      match director.lesson? first, director.lesson? second with
      | some left, some right =>
          discard <| setVariables first [.slot right.slot, .room right.room]
          setVariables second [.slot left.slot, .room left.room]
      | _, _ => return director.score

def writeBack (position : Nat) : Snapshot → Operation Unit
  | [] => return
  | placement :: rest => do
      writePlacement position fun _ => placement
      writeBack (position + 1) rest

def restore (snapshot : Snapshot) : Operation Unit := do
  checkOpen
  let timetable := (← get).timetable
  if snapshot.length ≠ timetable.lessons.length then
    throw (.snapshotLength snapshot.length timetable.term timetable.lessons.length)
  writeBack 0 snapshot

def onConstruction {Value : Type} (operation : Operation Value) : Construction Value := fun state =>
  match operation.run state.director with
  | .ok value next => .ok value { state with director := next }
  | .error fault next => .error fault { state with director := next }

end Operation

end SchoolTimetable
