/-!
A clock in seconds. It moves on by a fixed step after each reading, so that whatever reads it is a
function of its input; with a step of zero it stands still until it is advanced.
-/

namespace SchoolTimetable

structure Clock where
  now : Float
  step : Float
deriving Repr

namespace Clock

def ofStep (step : Float) : Clock := ⟨0, step⟩

def still : Clock := ofStep 0

def read (clock : Clock) : Float × Clock := (clock.now, { clock with now := clock.now + clock.step })

def advance (clock : Clock) (seconds : Float) : Clock := { clock with now := clock.now + seconds }

end Clock

end SchoolTimetable
