import SchoolTimetable.Proofs.Evaluation.Breakdown
import SchoolTimetable.Solution.Extraction

/-!
When a result has a document. Beside the records of its lessons it needs a text for the score of each
violation, and a score with too many digits has none.
-/

namespace SchoolTimetable

def ConstraintMatch.Costs (found : ConstraintMatch) : Prop := found.score.hard < 0 ∨ found.score.soft < 0

def Score.IsWritable (score : Score) : Prop :=
  score.hard.natAbs < Number.wholeLimit ∧ score.soft.natAbs < Number.wholeLimit

def Writable (weights : Weights) (lessons : List Lesson) : Prop :=
  ∀ found ∈ constraintMatches weights lessons, found.Costs → found.score.IsWritable

instance (found : ConstraintMatch) : Decidable found.Costs := inferInstanceAs (Decidable (_ ∨ _))

instance (score : Score) : Decidable score.IsWritable := inferInstanceAs (Decidable (_ ∧ _))

instance (weights : Weights) (lessons : List Lesson) : Decidable (Writable weights lessons) :=
  inferInstanceAs (Decidable (∀ found ∈ _, _ → _))

theorem Score.text_isSome (score : Score) : score.text?.isSome ↔ score.IsWritable := by
  have hard := Number.whole_text_isSome score.hard
  have soft := Number.whole_text_isSome score.soft
  unfold text? IsWritable
  rw [← hard, ← soft]
  cases Number.wholeText? score.hard <;> cases Number.wholeText? score.soft <;> simp

theorem map_m_isSome {Entry Value : Type} (convert : Entry → Option Value) (entries : List Entry) :
    (entries.mapM convert).isSome ↔ ∀ entry ∈ entries, (convert entry).isSome := by
  induction entries with
  | nil => simp
  | cons entry rest ih =>
      rw [List.forall_mem_cons, ← ih, List.mapM_cons]
      cases convert entry <;> cases rest.mapM convert <;> simp

theorem map_m_eq_some {Entry Value : Type} {convert : Entry → Option Value} {entries : List Entry}
    {values : List Value} : entries.mapM convert = some values ↔ values.map some = entries.map convert := by
  induction entries generalizing values with
  | nil => cases values <;> simp
  | cons entry rest ih =>
      rw [List.mapM_cons, List.map_cons]
      cases convert entry with
      | none => cases values <;> simp
      | some first =>
          cases values with
          | nil => cases rest.mapM convert <;> simp
          | cons value others =>
              rw [List.map_cons, List.cons.injEq, ← ih, Option.some.injEq]
              cases rest.mapM convert <;> simp [and_comm, eq_comm]

theorem mem_costly_matches {weights : Weights} {lessons : List Lesson} {found : ConstraintMatch} :
    (∃ hard, (hard, found) ∈ costlyMatches (explainScore weights lessons)) ↔
      found ∈ constraintMatches weights lessons ∧ found.Costs := by
  have whole : found ∈ (explainScore weights lessons).flatMap (·.matched) ↔
      found ∈ constraintMatches weights lessons := (explained_shares_out weights lessons).whole.mem_iff
  rw [← whole]
  unfold costlyMatches
  rw [List.partition_eq_filter_filter]
  simp only [List.mem_flatMap, List.mem_append, List.mem_filter, List.mem_map, Prod.mk.injEq,
    Bool.or_eq_true, decide_eq_true_eq]
  constructor
  · rintro ⟨hard, summary, listed, entry, ⟨among, costs⟩, -, rfl⟩
    exact ⟨⟨summary, listed.elim And.left And.left, among⟩, costs⟩
  · rintro ⟨⟨summary, listed, among⟩, costs⟩
    refine ⟨summary.constraint.isHard, summary, ?_, found, ⟨among, costs⟩, rfl, rfl⟩
    cases isHard : summary.constraint.isHard
    · exact .inr ⟨listed, by simp [isHard]⟩
    · exact .inl ⟨listed, rfl⟩

theorem violations_isSome (weights : Weights) (lessons : List Lesson) :
    (violationsOf? (explainScore weights lessons)).isSome ↔ Writable weights lessons := by
  unfold violationsOf?
  rw [map_m_isSome]
  have written : ∀ (hard : Bool) (found : ConstraintMatch),
      (found.violation? hard).isSome ↔ found.score.IsWritable := by
    intro hard found
    unfold ConstraintMatch.violation?
    rw [Option.isSome_map, Score.text_isSome]
  constructor
  · intro all found listed costs
    obtain ⟨hard, costly⟩ := mem_costly_matches.2 ⟨listed, costs⟩
    exact (written hard found).1 (all (hard, found) costly)
  · rintro writable ⟨hard, found⟩ costly
    obtain ⟨listed, costs⟩ := mem_costly_matches.1 ⟨hard, costly⟩
    exact (written hard found).2 (writable found listed costs)

/-- Weights under which no violation within sixteen periods of a day is too much for a text. -/
structure Weights.Moderate (weights : Weights) : Prop where
  preferredSlot : weights.preferredSlot.natAbs < Number.wholeLimit
  gap : weights.gap.natAbs * 14 < Number.wholeLimit
  distribution : weights.distribution.natAbs < Number.wholeLimit
  firstPeriod : weights.firstPeriod.natAbs < Number.wholeLimit

namespace Weights.Moderate

variable {weights : Weights}

theorem writable_of_soft {points : Int} (short : points.natAbs < Number.wholeLimit) :
    (Score.ofSoft points).IsWritable :=
  ⟨Nat.zero_lt_of_lt short, short⟩

theorem one_hard_writable : Score.oneHard.IsWritable := by decide +kernel

theorem writable_of_priced {constraint : Constraint} {score : Score} (moderate : weights.Moderate)
    (priced : constraint.Priced weights score) (other : constraint ≠ .teacherGap) : score.IsWritable := by
  cases priced with
  | hard => exact one_hard_writable
  | preferred => exact writable_of_soft moderate.preferredSlot
  | opening => exact writable_of_soft (by simpa using moderate.firstPeriod)
  | idling => exact absurd rfl other
  | repetition => exact writable_of_soft (by simpa using moderate.distribution)

theorem gap_writable {first second : Lesson} {slot other : TimeSlot} {impact : Impact} (moderate : weights.Moderate)
    (early : 1 ≤ slot.period ∧ 1 ≤ other.period) (late : slot.period ≤ 16 ∧ other.period ≤ 16)
    (listed : impact ∈ meetingMatches weights first second slot other) (gap : impact.1 = .teacherGap) :
    impact.2.IsWritable := by
  have idle : (idlePeriods slot.period other.period).natAbs ≤ 14 := by
    unfold idlePeriods
    omega
  have short : (-weights.gap * idlePeriods slot.period other.period).natAbs < Number.wholeLimit := by
    rw [Int.natAbs_mul, Int.natAbs_neg]
    exact (Nat.mul_le_mul_left _ idle).trans_lt moderate.gap
  simp only [meetingMatches, List.mem_append, mem_impact_if] at listed
  rcases listed with (((⟨-, rfl⟩ | ⟨-, rfl⟩) | ⟨-, rfl⟩) | ⟨-, rfl⟩) | ⟨-, rfl⟩
  · cases gap
  · cases gap
  · cases gap
  · exact writable_of_soft short
  · cases gap

end Weights.Moderate

theorem Weights.standard_moderate : standard.Moderate :=
  ⟨by decide +kernel, by decide +kernel, by decide +kernel, by decide +kernel⟩

theorem no_gap_of_lesson {weights : Weights} {lesson : Lesson} {impact : Impact}
    (listed : impact ∈ lessonMatches weights lesson) : impact.1 ≠ .teacherGap := by
  unfold lessonMatches at listed
  split at listed
  · cases listed
  · simp only [teacherFaults, teacherPreferences, List.mem_append, List.mem_flatMap, mem_impact_if] at listed
    rcases listed with (⟨_, -, ⟨-, rfl⟩ | ⟨-, rfl⟩⟩ | ⟨-, rfl⟩) | ⟨_, -, ⟨-, rfl⟩ | ⟨-, rfl⟩⟩ <;> simp

/-- On a grid of sixteen periods a day all violations can be written unless a weight is immoderate. -/
theorem writable_of_moderate {weights : Weights} {lessons : List Lesson} (moderate : weights.Moderate)
    (onGrid : ∀ lesson ∈ lessons, ∀ slot ∈ lesson.slot, 1 ≤ slot.period ∧ slot.period ≤ 16) :
    Writable weights lessons := by
  intro found listed _
  have priced := priced_of_mem_constraint_matches listed
  by_cases gap : found.constraint = .teacherGap
  · rcases List.mem_append.1 listed with single | paired
    · obtain ⟨lesson, -, single⟩ := List.mem_flatMap.1 single
      obtain ⟨impact, matched, rfl⟩ := List.mem_map.1 single
      exact absurd gap (no_gap_of_lesson matched)
    · obtain ⟨⟨left, right⟩, -, paired⟩ := List.mem_flatMap.1 paired
      dsimp only at paired
      split at paired
      · rename_i first second firstFound secondFound
        obtain ⟨impact, matched, rfl⟩ := List.mem_map.1 paired
        unfold pairMatches at matched
        split at matched
        · rename_i slot other firstSlot secondSlot
          have firstPeriod := onGrid first (List.mem_of_getElem? firstFound) slot firstSlot
          have secondPeriod := onGrid second (List.mem_of_getElem? secondFound) other secondSlot
          split at matched
          · exact moderate.gap_writable ⟨firstPeriod.1, secondPeriod.1⟩ ⟨firstPeriod.2, secondPeriod.2⟩ matched gap
          · cases matched
        · cases matched
      · cases paired
  · exact moderate.writable_of_priced priced gap

namespace SolveResult

variable {result : SolveResult} {config : Config} {records : List LessonRecord}

theorem solution_ok {solution : Solution} (resolved : result.solution config = .ok solution) :
    ∃ records violations, result.timetable.records config.allowUnresourced = .ok records ∧
      violationsOf? (explainScore config.weights result.timetable.lessons) = some violations ∧
      solution = result.document (explainScore config.weights result.timetable.lessons) records violations := by
  unfold SolveResult.solution at resolved
  split at resolved
  · cases resolved
  · rename_i records recorded
    dsimp only at resolved
    split at resolved
    · rename_i violations listed
      exact ⟨records, violations, recorded, listed, (Except.ok.inj resolved).symm⟩
    · cases resolved

/-- With records a result has a document that tells them, unless the score of a violation cannot be written. -/
theorem solution_of_writable (recorded : result.timetable.records config.allowUnresourced = .ok records)
    (writable : Writable config.weights result.timetable.lessons) :
    ∃ solution, result.solution config = .ok solution ∧ solution.lessons = records := by
  obtain ⟨violations, listed⟩ := Option.isSome_iff_exists.1 ((violations_isSome _ _).2 writable)
  refine ⟨result.document (explainScore config.weights result.timetable.lessons) records violations, ?_, rfl⟩
  unfold SolveResult.solution
  rw [recorded]
  dsimp only
  rw [listed]

theorem solution_of_unwritable (recorded : result.timetable.records config.allowUnresourced = .ok records)
    (unwritable : ¬ Writable config.weights result.timetable.lessons) :
    result.solution config = .error .overlongScore := by
  have unlisted : violationsOf? (explainScore config.weights result.timetable.lessons) = none := by
    rw [← Option.not_isSome_iff_eq_none, violations_isSome]
    exact unwritable
  unfold SolveResult.solution
  rw [recorded]
  dsimp only
  rw [unlisted]

end SolveResult

/-- The lessons of a result are all recorded, and its document tells the records. There is one exactly if
the scores of all violations can be written; nothing else is missing for it. -/
structure SolveResult.Recorded (result : SolveResult) (config : Config) (records : List LessonRecord) :
    Prop where
  known : result.timetable.records config.allowUnresourced = .ok records
  tells : ∀ solution, result.solution config = .ok solution → solution.lessons = records
  document : (∃ solution, result.solution config = .ok solution) ↔
    Writable config.weights result.timetable.lessons
  fault : ∀ fault, result.solution config = .error fault → fault = .overlongScore

theorem SolveResult.recorded {result : SolveResult} {config : Config} {records : List LessonRecord}
    (recorded : result.timetable.records config.allowUnresourced = .ok records) :
    result.Recorded config records where
  known := recorded
  tells := by
    intro solution resolved
    obtain ⟨own, violations, same, -, rfl⟩ := solution_ok resolved
    exact (Except.ok.inj (recorded.symm.trans same)).symm
  document := by
    constructor
    · rintro ⟨solution, resolved⟩
      by_contra unwritable
      rw [solution_of_unwritable recorded unwritable] at resolved
      cases resolved
    · intro writable
      obtain ⟨solution, resolved, -⟩ := solution_of_writable recorded writable
      exact ⟨solution, resolved⟩
  fault := by
    intro fault failed
    by_cases writable : Writable config.weights result.timetable.lessons
    · obtain ⟨solution, resolved, -⟩ := solution_of_writable recorded writable
      rw [resolved] at failed
      cases failed
    · rw [solution_of_unwritable recorded writable] at failed
      exact (Except.error.inj failed).symm

end SchoolTimetable
