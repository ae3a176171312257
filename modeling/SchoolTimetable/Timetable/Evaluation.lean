import SchoolTimetable.Entries
import SchoolTimetable.Timetable.Constraint

/-!
Full evaluation of a timetable. Two lessons can only match a constraint if they share a class and a
day, a teacher and a day, or a room and a slot, so pairs are looked for among the lessons that share
such a key.
-/

namespace SchoolTimetable

inductive IndexKey where
  | ofClass (schoolClass : String) (day : Int)
  | ofTeacher (teacher : String) (day : Int)
  | ofRoom (room slot : String)
deriving DecidableEq, Hashable, Repr

def Lesson.indexKeys (lesson : Lesson) : List IndexKey :=
  match lesson.slot with
  | none => []
  | some slot =>
      [.ofClass lesson.schoolClass.id slot.day] ++
        (lesson.teacher.toList.map fun teacher => .ofTeacher teacher.id slot.day) ++
        lesson.room.toList.map fun room => .ofRoom room.id slot.id

def orderedPairs {Member : Type} : List Member → List (Member × Member)
  | [] => []
  | first :: rest => rest.map (fun second => (first, second)) ++ orderedPairs rest

/-- The positions of the lessons under each key, keys in the order of their first use. -/
def indexBuckets (lessons : List Lesson) : List (IndexKey × List Nat) :=
  let uses := lessons.zipIdx.flatMap fun (lesson, position) =>
    lesson.indexKeys.map fun key => (key, position)
  (Entries.group (·.1) uses).map fun (key, members) => (key, members.map (·.2))

/-- The pairs of positions that share a key, each once, at the first key they share. -/
def candidatePairs (lessons : List Lesson) : List (Nat × Nat) :=
  ((indexBuckets lessons).flatMap fun bucket => orderedPairs bucket.2).eraseDups

structure ConstraintMatch where
  constraint : Constraint
  score : Score
  lessons : List String
deriving DecidableEq, Repr

/-- Every match: those of single lessons in lesson order, then those of pairs. -/
def constraintMatches (weights : Weights) (lessons : List Lesson) : List ConstraintMatch :=
  (lessons.flatMap fun lesson =>
    (lessonMatches weights lesson).map fun (constraint, score) => ⟨constraint, score, [lesson.id]⟩) ++
  (candidatePairs lessons).flatMap fun (left, right) =>
    match lessons[left]?, lessons[right]? with
    | some first, some second =>
        (pairMatches weights first second).map fun (constraint, score) =>
          ⟨constraint, score, [first.id, second.id]⟩
    | _, _ => []

def fullScore (weights : Weights) (lessons : List Lesson) : Score :=
  Score.sum ((constraintMatches weights lessons).map (·.score))

def Timetable.fullScore (timetable : Timetable) (weights : Weights) : Score :=
  SchoolTimetable.fullScore weights timetable.lessons

structure ConstraintSummary where
  constraint : Constraint
  matched : List ConstraintMatch
deriving DecidableEq, Repr

namespace ConstraintSummary

def count (summary : ConstraintSummary) : Nat := summary.matched.length

def score (summary : ConstraintSummary) : Score := Score.sum (summary.matched.map (·.score))

def points (summary : ConstraintSummary) : Int :=
  if summary.constraint.isHard then summary.score.hard else summary.score.soft

end ConstraintSummary

/-- The matches of every constraint, also of those without any. -/
def explainScore (weights : Weights) (lessons : List Lesson) : List ConstraintSummary :=
  let found := constraintMatches weights lessons
  Constraint.all.map fun constraint => ⟨constraint, found.filter (·.constraint == constraint)⟩

end SchoolTimetable
