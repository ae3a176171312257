import SchoolTimetable.Random.Source
import SchoolTimetable.Record.Checked

/-!
Drawing the parts of a sample school: numbers of a range, members of a list, and parts of a list.
-/

namespace SchoolTimetable.Sample

inductive SampleFault where
  /-- An entry, or the whole snapshot, is not valid. -/
  | invalid (issues : List Record.Issue)
  | noGrades
  /-- A number was to be drawn from a range that is empty. -/
  | emptyRange
  /-- More members were to be drawn than there are, or fewer than none. -/
  | badCount
  /-- A time lies outside of the calendar. -/
  | outOfCalendar
  /-- A share of the week is not a number, or one without end. -/
  | badShare
  | endlessShare
  /-- No name is free any more. -/
  | namesUsedUp
  | drawing (fault : PlanningFault)

abbrev Sampling (Source : Type) := EStateM SampleFault Source

variable {Source : Type} [RandomSource Source]

def draw {Value : Type} (drawing : Drawing Source Value) : Sampling Source Value := fun source =>
  match drawing.run source with
  | .ok value rest => .ok value rest
  | .error fault rest => .error (.drawing fault) rest

def drawBelow (bound : Nat) : Sampling Source Nat :=
  if positive : 0 < bound then do
    let position ← draw (RandomSource.below bound positive)
    return position.val
  else throw .emptyRange

def drawBetween (least greatest : Int) : Sampling Source Int := do
  let offset ← drawBelow (greatest - least + 1).toNat
  return least + offset

def drawFrom {Member : Type} (members : List Member) : Sampling Source Member :=
  draw (RandomSource.choose members)

/-- Draws members of a pool one after another. The last one takes the place of each that is drawn. -/
def drawPart {Member : Type} : Nat → List Member → Sampling Source (List Member)
  | 0, _ => return []
  | count + 1, pool => do
      let position ← drawBelow pool.length
      match pool[position]?, pool.getLast? with
      | some drawn, some last => do
          let others ← drawPart count (pool.set position last).dropLast
          return drawn :: others
      | _, _ => throw .badCount

def drawSome {Member : Type} (count : Int) (members : List Member) : Sampling Source (List Member) :=
  if count < 0 ∨ members.length < count then throw .badCount
  else drawPart count.toNat members

def accepted {Value : Type} : Record.Checked Value → Sampling Source Value
  | .ok value => return value
  | .flawed issues => throw (.invalid issues)
  | .incomparableTimes => throw (.invalid [])

end SchoolTimetable.Sample
