import SchoolTimetable.Timetable.Fault

/-!
Sources of random draws. A source gives positions below a bound, fractions from zero up to one, and
positions that are weighted unequally; it may come to its end. Everything that draws is stated for
any source.
-/

namespace SchoolTimetable

/-- An operation that draws from a source. What it has drawn stays drawn where it is refused. -/
abbrev Drawing (Source : Type) := EStateM PlanningFault Source

class RandomSource (Source : Type) where
  /-- A position below a bound. -/
  below : (bound : Nat) → 0 < bound → Drawing Source (Fin bound)
  /-- A number that is not below zero and is below one. -/
  fraction : Drawing Source Float
  /-- A position among weights, each as likely as its weight says. -/
  weighted : List Nat → Drawing Source Nat

namespace RandomSource

variable {Source : Type} [RandomSource Source]

/-- One of the members of a list, each as likely as the others. -/
def choose {Member : Type} (members : List Member) : Drawing Source Member :=
  if nonempty : 0 < members.length then do
    let position ← below members.length nonempty
    return members[position]
  else throw .nothingToChoose

end RandomSource

/-- The position of a fraction of the total among cumulated weights; the last one takes the rest. -/
def weightedPosition (weights : List Nat) (fraction : Float) : Nat :=
  let (total, sums) := weights.foldl (fun (total, sums) weight => (total + weight, (total + weight) :: sums))
    ((0, []) : Nat × List Nat)
  let target := fraction * total.toFloat
  ((sums.drop 1).reverse.takeWhile fun sum => sum.toFloat ≤ target).length

end SchoolTimetable
