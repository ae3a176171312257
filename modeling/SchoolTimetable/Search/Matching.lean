/-!
Serving customers from places that serve one customer each. Customers are served one after the other.
Where all places that suit the next one are taken, some customer who has one of them moves to another
place, if need be at the cost of a third, and so on. If no such row of moves ends at a free place, there
are customers who together have too few places.
-/

namespace SchoolTimetable.Matching

variable {Place : Type} [BEq Place]

/-- Places in the course of serving a customer: those already asked for, and who is served where. -/
structure Service (Place : Type) where
  asked : List Place
  served : List (Place × List Place)

def Service.assign (service : Service Place) (place : Place) (suitable : List Place) : Service Place :=
  { service with served := (place, suitable) :: service.served.filter fun entry => !(entry.1 == place) }

/-- Tries to serve the customer whom some places suit. Each round asks for a place not asked for
before, so the count of places bounds the rounds. -/
def serve : Nat → List Place → Service Place → Bool × Service Place
  | 0, _, service => (false, service)
  | rounds + 1, suitable, service =>
      suitable.foldl (fun (done, service) place =>
        if done || service.asked.contains place then (done, service)
        else
          let asking := { service with asked := place :: service.asked }
          match asking.served.lookup place with
          | none => (true, asking.assign place suitable)
          | some others =>
              let (moved, after) := serve rounds others asking
              if moved then (true, after.assign place suitable) else (false, after))
        (false, service)

def serveAllFrom (served : List (Place × List Place)) : List (List Place) → Bool
  | [] => true
  | suitable :: rest =>
      let (done, after) := serve (served.length + 1) suitable ⟨[], served⟩
      done && serveAllFrom after.served rest

def canServeAll (customers : List (List Place)) : Bool := serveAllFrom [] customers

end SchoolTimetable.Matching
