import SchoolTimetable.Number.Whole

/-!
Scores of timetables. A score counts violations of hard constraints and the balance of soft
preferences; both are better the higher they are, and no soft gain outweighs a hard loss.
-/

namespace SchoolTimetable

structure Score where
  hard : Int
  soft : Int
deriving DecidableEq, Repr, Inhabited

namespace Score

instance : Zero Score := ⟨⟨0, 0⟩⟩

instance : Add Score := ⟨fun first second => ⟨first.hard + second.hard, first.soft + second.soft⟩⟩

instance : Sub Score := ⟨fun first second => ⟨first.hard - second.hard, first.soft - second.soft⟩⟩

instance : Neg Score := ⟨fun score => ⟨-score.hard, -score.soft⟩⟩

/-- The hard part decides, the soft part where the hard parts are equal. -/
instance : LT Score :=
  ⟨fun first second => first.hard < second.hard ∨ first.hard = second.hard ∧ first.soft < second.soft⟩

instance : LE Score :=
  ⟨fun first second => first.hard < second.hard ∨ first.hard = second.hard ∧ first.soft ≤ second.soft⟩

instance (first second : Score) : Decidable (first < second) :=
  inferInstanceAs (Decidable (_ ∨ _ ∧ _))

instance (first second : Score) : Decidable (first ≤ second) :=
  inferInstanceAs (Decidable (_ ∨ _ ∧ _))

instance : Max Score := ⟨fun first second => if first < second then second else first⟩

def isFeasible (score : Score) : Bool := 0 ≤ score.hard

def oneHard : Score := ⟨-1, 0⟩

def ofSoft (points : Int) : Score := ⟨0, points⟩

def sum (scores : List Score) : Score := scores.foldl (· + ·) 0

/-- The scores in ascending order; equal ones keep their order. -/
def ascending (scores : List Score) : List Score := scores.mergeSort (· ≤ ·)

/-- The text of a score, unless one of its parts has too many digits. -/
def text? (score : Score) : Option String := do
  let hard ← Number.wholeText? score.hard
  let soft ← Number.wholeText? score.soft
  return s!"{hard}hard/{soft}soft"

@[simp] theorem zero_hard : (0 : Score).hard = 0 := rfl

@[simp] theorem zero_soft : (0 : Score).soft = 0 := rfl

@[simp] theorem add_hard (first second : Score) : (first + second).hard = first.hard + second.hard := rfl

@[simp] theorem add_soft (first second : Score) : (first + second).soft = first.soft + second.soft := rfl

@[simp] theorem sub_hard (first second : Score) : (first - second).hard = first.hard - second.hard := rfl

@[simp] theorem sub_soft (first second : Score) : (first - second).soft = first.soft - second.soft := rfl

@[simp] theorem neg_hard (score : Score) : (-score).hard = -score.hard := rfl

@[simp] theorem neg_soft (score : Score) : (-score).soft = -score.soft := rfl

theorem ext_parts {first second : Score} (hard : first.hard = second.hard)
    (soft : first.soft = second.soft) : first = second := by
  cases first; cases second; simp_all

theorem lt_iff (first second : Score) :
    first < second ↔ first.hard < second.hard ∨ first.hard = second.hard ∧ first.soft < second.soft :=
  Iff.rfl

theorem le_iff (first second : Score) :
    first ≤ second ↔ first.hard < second.hard ∨ first.hard = second.hard ∧ first.soft ≤ second.soft :=
  Iff.rfl

end Score

end SchoolTimetable
