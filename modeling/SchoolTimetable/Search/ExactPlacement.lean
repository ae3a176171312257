import SchoolTimetable.Search.FirstFit
import SchoolTimetable.Search.Matching

/-!
Placement of all lessons at once. A model has one yes-or-no variable for each lesson, slot and
teacher who is not blocked there; every lesson takes exactly one of its variables, and at most one of
those that would meet in a week. A solution is found by choosing for the lesson with the fewest
variables left, as long as no class and no teacher has fewer slots left than lessons. Rooms are not
part of the model.
-/

namespace SchoolTimetable

structure Choice where
  lesson : Nat
  slot : Nat
  option : Nat
  schoolClass : String
  teacher : Option Teacher
  pattern : WeekPattern
deriving DecidableEq

namespace Choice

def name (choice : Choice) : String := s!"x_{choice.lesson}_{choice.slot}_{choice.option}"

def teacherId? (choice : Choice) : Option String := choice.teacher.map (·.id)

def uses (choice : Choice) : List (String × String × Nat) :=
  ("class", choice.schoolClass, choice.slot) ::
    (choice.teacherId?.toList.map fun id => ("teacher", id, choice.slot))

def meets (first second : Choice) : Bool :=
  first.pattern.overlaps second.pattern && first.uses.any fun place => second.uses.contains place

end Choice

/-- The choices for a lesson: the slots in order, in each the teachers who are not blocked. -/
def lessonChoices (slots : List TimeSlot) (position : Nat) (lesson : Lesson) : List Choice :=
  slots.zipIdx.flatMap fun (slot, slotIndex) =>
    lesson.teacherOptions.zipIdx.filterMap fun (teacher, option) =>
      if teacher.any fun known => known.isBlockedAt slot then none
      else some ⟨position, slotIndex, option, lesson.schoolClass.id, teacher, lesson.pattern⟩

/-- Exactly one of each of the first groups of choices, at most one of each of the others. Building
ends at a lesson without any choice. -/
structure PlacementModel where
  exactlyOne : List (List Choice)
  atMostOne : List (List Choice)
  complete : Bool

namespace PlacementModel

def choices (model : PlacementModel) : List Choice := model.exactlyOne.flatten

/-- The groups of choices for one place of which at most one is taken: those of every week with those
of A weeks, and with those of B weeks. -/
def placeGroups (choices : List Choice) : List (List Choice) :=
  let ofPattern := fun pattern : WeekPattern => choices.filter (·.pattern == pattern)
  ([.a, .b].map fun pattern : WeekPattern => ofPattern .every ++ ofPattern pattern).filter fun group =>
    1 < group.length

def build (timetable : Timetable) : PlacementModel :=
  let groups := timetable.lessons.zipIdx.map fun (lesson, position) =>
    lessonChoices timetable.slots position lesson
  let made := groups.takeWhile fun group => !group.isEmpty
  if made.length = groups.length then
    let uses := made.flatten.flatMap fun choice => choice.uses.map fun place => (place, choice)
    let places := Entries.group (·.1) uses
    ⟨made, places.flatMap fun place => placeGroups (place.2.map (·.2)), true⟩
  else ⟨made, [], false⟩

def takeShortest {Member : Type} : List (List Member) → Option (List Member × List (List Member))
  | [] => none
  | group :: rest =>
      match takeShortest rest with
      | none => some (group, [])
      | some (shortest, others) =>
          if shortest.length < group.length then some (shortest, group :: others)
          else some (group, rest)

def classPlaces (group : List Choice) : List (String × Nat) :=
  group.map fun choice => (choice.schoolClass, choice.slot)

def teacherPlaces? (group : List Choice) : Option (List (String × Nat)) :=
  group.mapM fun choice => choice.teacherId?.map fun id => (id, choice.slot)

/-- Whether in one of the two weeks the classes, or the teachers, have too few slots for the lessons
that one of each group of choices stands for. -/
def isOverfull (groups : List (List Choice)) : Bool :=
  [WeekPattern.a, .b].any fun week =>
    let active := groups.filter fun group => group.any fun choice => choice.pattern.overlaps week
    !Matching.canServeAll (active.map classPlaces) ||
      !Matching.canServeAll (active.filterMap teacherPlaces?)

/-- Chooses one of each group so that no two meet. Each round serves one group. -/
def choose : Nat → List (List Choice) → Option (List Choice)
  | 0, _ => some []
  | rounds + 1, groups =>
      if isOverfull groups then none
      else
        match takeShortest groups with
        | none => some []
        | some (group, others) =>
            group.findSome? fun choice =>
              (choose rounds (others.map fun other => other.filter fun next => !choice.meets next)).map
                fun rest => choice :: rest

def solve (model : PlacementModel) : Option (List Choice) :=
  if model.complete then choose model.exactlyOne.length model.exactlyOne else none

end PlacementModel

/-- A way to find a solution of a model: it says of every variable whether it is taken, or gives up. -/
abbrev ExactPlacer := PlacementModel → Option (Choice → Bool)

def PlacementModel.placer : ExactPlacer := fun model =>
  model.solve.map fun chosen choice => chosen.contains choice

inductive ExactStatus where
  | unknown
  | optimal
  | infeasible
deriving DecidableEq, Repr

def ExactStatus.text : ExactStatus → String
  | .unknown => "UNKNOWN"
  | .optimal => "OPTIMAL"
  | .infeasible => "INFEASIBLE"

namespace Director

def applyChoice (director : Director) (choice : Choice) : Except PlanningFault Director :=
  match director.timetable.slots[choice.slot]? with
  | some slot => director.change choice.lesson [.slot (some slot), .teacher choice.teacher]
  | none => .ok director

/-- The seeds that a placement of all lessons takes: those of 32 bits with a sign. -/
def takesSeed (seed : Int) : Bool := -2147483648 ≤ seed && seed ≤ 2147483647

/-- Places all lessons at once if a solution is found; otherwise nothing changes. The lessons take
their variables in the order in which these were made. A seed has no influence on the placement, but
a model that is complete is refused with a seed that is not taken. -/
def placeExactlyBy (placer : ExactPlacer) (director : Director) (seed : Option Int) :
    Except PlanningFault (ExactStatus × Director) :=
  let model := PlacementModel.build director.timetable
  if model.complete then
    if seed.all takesSeed then
      match placer model with
      | some taken => do
          let placed ← (model.choices.filter taken).foldlM applyChoice director
          .ok (.optimal, placed)
      | none => .ok (.infeasible, director)
    else .error .seedRange
  else .ok (.unknown, director)

def placeExactly (director : Director) (seed : Option Int) :
    Except PlanningFault (ExactStatus × Director) :=
  director.placeExactlyBy PlacementModel.placer seed

end Director

end SchoolTimetable
