import SchoolTimetable.Proofs.Evaluation.Weeks
import SchoolTimetable.Proofs.Problem.Hours
import SchoolTimetable.Proofs.Search.ExactPlacements
import SchoolTimetable.Proofs.Timetable.Assembling

/-!
What it means that a class is overfull. A class needs as many slots as it has hours of every week, and hours
of A or of B weeks, whichever are more. If there are fewer, then two of its hours meet in some week; if there
are as many, its hours can be given slots in which no two of them conflict over the class.
-/

namespace SchoolTimetable

def Lesson.seated (lesson : Lesson) (slot : TimeSlot) : Lesson :=
  lesson.placed { lesson.placement with slot := some slot }

/-- A slot on offer for every lesson, such that no two lessons conflict over their class. -/
structure Seats (weights : Weights) (slots : List TimeSlot) (lessons : List Lesson)
    (seats : List TimeSlot) : Prop where
  length : seats.length = lessons.length
  offered : ∀ slot ∈ seats, slot ∈ slots
  apart : (lessons.zipWith Lesson.seated seats).Pairwise fun first second =>
    .classConflict ∉ (pairMatches weights first second).map (·.1)

def Apart (held : List (WeekPattern × TimeSlot)) : Prop :=
  held.Pairwise fun first second => first.1.overlaps second.1 → first.2 ≠ second.2

/-- The pattern of the hours that are held in one of the weeks only. -/
def Week.own : Week → WeekPattern
  | .a => .a
  | .b => .b

section Patterns

variable {patterns : List WeekPattern} {slots : List TimeSlot}

theorem count_in_week (patterns : List WeekPattern) (week : Week) :
    patterns.countP (·.runsIn week) = patterns.count .every + patterns.count week.own := by
  induction patterns with
  | nil => rfl
  | cons pattern rest ih =>
      rw [List.countP_cons, List.count_cons, List.count_cons, ih]
      cases pattern <;> cases week <;> simp [WeekPattern.runsIn, Week.own] <;> omega

/-- The hours of a week are in slots of their own, so there are no more of them than slots. -/
theorem Apart.count_le {held : List (WeekPattern × TimeSlot)} (apart : Apart held)
    (offered : ∀ hour ∈ held, hour.2 ∈ slots) (week : Week) :
    held.countP (·.1.runsIn week) ≤ slots.length := by
  have distinct : ((held.filter (·.1.runsIn week)).map (·.2)).Nodup := by
    rw [List.Nodup, List.pairwise_map, List.pairwise_filter]
    refine apart.imp ?_
    intro first second differ inFirst inSecond
    exact differ ((WeekPattern.overlaps_iff _ _).2 ⟨week, inFirst, inSecond⟩)
  have within : (held.filter (·.1.runsIn week)).map (·.2) ⊆ slots := by
    intro slot listed
    obtain ⟨hour, kept, rfl⟩ := List.mem_map.1 listed
    exact offered hour (List.mem_filter.1 kept).1
  calc
    held.countP (·.1.runsIn week) = ((held.filter (·.1.runsIn week)).map (·.2)).length := by
      rw [List.length_map, List.countP_eq_length_filter]
    _ ≤ slots.length := (List.subperm_of_subset distinct within).length_le

/-- Slots kept for the hours of each pattern. Patterns that overlap share none of them. -/
structure Pools (pool : WeekPattern → List TimeSlot) : Prop where
  distinct : ∀ pattern, (pool pattern).Nodup
  disjoint : ∀ first second, first ≠ second → first.overlaps second → (pool first).Disjoint (pool second)

/-- A slot that is taken out of its pool is kept for no other hour that overlaps. -/
theorem Pools.take {pool : WeekPattern → List TimeSlot} (pools : Pools pool) {pattern : WeekPattern}
    {slot : TimeSlot} {rest : List TimeSlot} (kept : pool pattern = slot :: rest) :
    Pools (Function.update pool pattern rest) ∧
      ∀ other, pattern.overlaps other → slot ∉ Function.update pool pattern rest other := by
  have within : ∀ other, Function.update pool pattern rest other ⊆ pool other := by
    intro other
    by_cases same : other = pattern
    · subst same
      rw [Function.update_self, kept]
      exact List.subset_cons_self slot rest
    · rw [Function.update_of_ne same]
      exact List.Subset.refl _
  have own := kept ▸ pools.distinct pattern
  refine ⟨⟨?_, ?_⟩, ?_⟩
  · intro other
    by_cases same : other = pattern
    · subst same
      rw [Function.update_self]
      exact own.of_cons
    · rw [Function.update_of_ne same]
      exact pools.distinct other
  · intro first second differ overlaps member inFirst inSecond
    exact pools.disjoint first second differ overlaps (within first inFirst) (within second inSecond)
  · intro other overlaps
    by_cases same : other = pattern
    · subst same
      rw [Function.update_self]
      exact own.notMem
    · intro listed
      refine pools.disjoint pattern other (Ne.symm same) overlaps ?_ (within other listed)
      rw [kept]
      exact List.mem_cons_self ..

/-- Hours are seated one after the other, each in a slot out of the pool of its pattern. -/
theorem Pools.seats {pool : WeekPattern → List TimeSlot} (pools : Pools pool)
    (enough : ∀ pattern, patterns.count pattern ≤ (pool pattern).length) :
    ∃ seats : List TimeSlot, seats.length = patterns.length ∧ Apart (patterns.zip seats) ∧
      ∀ hour ∈ patterns.zip seats, hour.2 ∈ pool hour.1 := by
  induction patterns generalizing pool with
  | nil => exact ⟨[], rfl, .nil, by simp⟩
  | cons pattern others ih =>
      have own := enough pattern
      rw [List.count_cons_self] at own
      cases kept : pool pattern with
      | nil => simp [kept] at own
      | cons slot rest =>
          obtain ⟨left, free⟩ := pools.take kept
          have stillEnough : ∀ other, others.count other ≤
              (Function.update pool pattern rest other).length := by
            intro other
            by_cases same : other = pattern
            · subst same
              rw [Function.update_self]
              rw [kept, List.length_cons] at own
              omega
            · rw [Function.update_of_ne same]
              have bound := enough other
              rwa [List.count_cons_of_ne (Ne.symm same)] at bound
          obtain ⟨seats, length, apart, pooled⟩ := ih left stillEnough
          refine ⟨slot :: seats, by simp [length], List.pairwise_cons.2 ⟨?_, apart⟩, ?_⟩
          · rintro ⟨other, seat⟩ listed overlaps rfl
            exact free other overlaps (pooled _ listed)
          · intro hour listed
            rcases List.mem_cons.1 listed with rfl | later
            · rw [kept]
              exact List.mem_cons_self ..
            · have inPool := pooled hour later
              by_cases same : hour.1 = pattern
              · rw [same, Function.update_self] at inPool
                rw [same, kept]
                exact List.mem_cons_of_mem slot inPool
              · rwa [Function.update_of_ne same] at inPool

/-- Some slots for the hours of every week, and the others for those of A as for those of B weeks. -/
def poolsOf (slots : List TimeSlot) (always : Nat) : WeekPattern → List TimeSlot
  | .every => slots.take always
  | .a => slots.drop always
  | .b => slots.drop always

theorem pools_of_slots (distinct : slots.Nodup) (always : Nat) : Pools (poolsOf slots always) where
  distinct pattern := by
    cases pattern with
    | every => exact distinct.sublist (List.take_sublist ..)
    | a => exact distinct.sublist (List.drop_sublist ..)
    | b => exact distinct.sublist (List.drop_sublist ..)
  disjoint first second differ overlaps := by
    have apart := List.disjoint_take_drop distinct (Nat.le_refl always)
    cases first <;> cases second
    case every.a => exact apart
    case every.b => exact apart
    case a.every => exact apart.symm
    case b.every => exact apart.symm
    case a.b => cases overlaps
    case b.a => cases overlaps
    all_goals exact absurd rfl differ

/-- Hours have slots in which no two of them meet exactly if there is one for each hour of every week, and
for each hour of A or of B weeks, whichever are more. -/
theorem seats_exist_iff (distinct : slots.Nodup) :
    (∃ seats : List TimeSlot, seats.length = patterns.length ∧ (∀ slot ∈ seats, slot ∈ slots) ∧
      Apart (patterns.zip seats)) ↔
      patterns.count .every + max (patterns.count .a) (patterns.count .b) ≤ slots.length := by
  constructor
  · rintro ⟨seats, length, offered, apart⟩
    -- A week holds its own hours and those of every week, all of them in different slots.
    have inWeek : ∀ week, patterns.count .every + patterns.count (Week.own week) ≤ slots.length := by
      intro week
      have bound := apart.count_le (fun hour listed => offered hour.2 (List.of_mem_zip listed).2) week
      have hours : (patterns.zip seats).map (·.1) = patterns := List.map_fst_zip (by omega)
      have counted : (patterns.zip seats).countP (·.1.runsIn week) = patterns.countP (·.runsIn week) := by
        conv_rhs => rw [← hours, List.countP_map]
        rfl
      rwa [counted, count_in_week] at bound
    have inA := inWeek .a
    have inB := inWeek .b
    dsimp only [Week.own] at inA inB
    omega
  · intro enough
    -- The hours of every week take the first slots. What is left is enough for A, and once more for B weeks.
    have shares : ∀ pattern, patterns.count pattern ≤
        (poolsOf slots (patterns.count .every) pattern).length := by
      intro pattern
      cases pattern <;> simp only [poolsOf, List.length_take, List.length_drop] <;> omega
    obtain ⟨seats, length, apart, pooled⟩ := (pools_of_slots distinct (patterns.count .every)).seats shares
    refine ⟨seats, length, ?_, apart⟩
    intro slot listed
    have taken : (patterns.zip seats).map (·.2) = seats := List.map_snd_zip (by omega)
    rw [← taken] at listed
    obtain ⟨⟨pattern, seat⟩, held, rfl⟩ := List.mem_map.1 listed
    have inPool := pooled _ held
    cases pattern with
    | every => exact List.mem_of_mem_take inPool
    | a => exact List.mem_of_mem_drop inPool
    | b => exact List.mem_of_mem_drop inPool

end Patterns

section Classes

variable (weights : Weights)

/-- Two hours of one class conflict over it exactly if they can fall in one week and have one slot. -/
theorem seated_conflict_iff {first second : Lesson} {own other : TimeSlot}
    (sameClass : first.schoolClass = second.schoolClass) (byId : own.id = other.id → own = other) :
    .classConflict ∈ (pairMatches weights (first.seated own) (second.seated other)).map (·.1) ↔
      first.pattern.overlaps second.pattern ∧ own = other := by
  have firstSlot : (first.seated own).slot = some own := rfl
  have secondSlot : (second.seated other).slot = some other := rfl
  have classes : (first.seated own).SharesClass (second.seated other) :=
    congrArg SchoolClass.id sameClass
  rw [(conflict_matches_iff weights _ _).2, Lesson.shares_slot_iff firstSlot secondSlot,
    Lesson.shares_day_iff firstSlot secondSlot]
  constructor
  · rintro ⟨⟨⟨-, overlaps⟩, sameSlot⟩, -⟩
    exact ⟨overlaps, byId sameSlot⟩
  · rintro ⟨overlaps, rfl⟩
    exact ⟨⟨⟨rfl, overlaps⟩, rfl⟩, classes⟩

variable {lessons : List Lesson} {slots seats : List TimeSlot} {schoolClass : SchoolClass}

/-- The hours of one class are seated without a conflict over it exactly if they are apart. -/
theorem seated_apart_iff (ofClass : ∀ lesson ∈ lessons, lesson.schoolClass = schoolClass)
    (byId : ∀ first ∈ seats, ∀ second ∈ seats, first.id = second.id → first = second) :
    ((lessons.zipWith Lesson.seated seats).Pairwise fun first second =>
      .classConflict ∉ (pairMatches weights first second).map (·.1)) ↔
      Apart ((lessons.map (·.pattern)).zip seats) := by
  rw [Apart, List.zip_map_left, List.pairwise_map, ← List.map_uncurry_zip_eq_zipWith, List.pairwise_map]
  apply List.Pairwise.iff_of_mem
  rintro ⟨first, own⟩ ⟨second, other⟩ firstHeld secondHeld
  obtain ⟨firstListed, ownTaken⟩ := List.of_mem_zip firstHeld
  obtain ⟨secondListed, otherTaken⟩ := List.of_mem_zip secondHeld
  have sameClass := (ofClass first firstListed).trans (ofClass second secondListed).symm
  have conflict := seated_conflict_iff weights sameClass (byId own ownTaken other otherTaken)
  exact (not_congr conflict).trans not_and

/-- Only the patterns of the hours of one class decide which slots they can be given. -/
theorem seats_iff (ofClass : ∀ lesson ∈ lessons, lesson.schoolClass = schoolClass)
    (byId : ∀ first ∈ slots, ∀ second ∈ slots, first.id = second.id → first = second) :
    Seats weights slots lessons seats ↔ seats.length = (lessons.map (·.pattern)).length ∧
      (∀ slot ∈ seats, slot ∈ slots) ∧ Apart ((lessons.map (·.pattern)).zip seats) := by
  have apart (offered : ∀ slot ∈ seats, slot ∈ slots) :=
    seated_apart_iff weights ofClass fun first firstTaken second secondTaken =>
      byId first (offered first firstTaken) second (offered second secondTaken)
  rw [List.length_map]
  constructor
  · intro given
    exact ⟨given.length, given.offered, (apart given.offered).1 given.apart⟩
  · rintro ⟨length, offered, kept⟩
    exact ⟨length, offered, (apart offered).2 kept⟩

end Classes

namespace Problem

variable {problem : Problem}

def hoursUnder (problem : Problem) (schoolClass : SchoolClass) (entry : Requirement × String) : List Lesson :=
  (problem.buildSubjects.find? (·.id == entry.1.subject)).toList.flatMap fun subject =>
    lessonsOf entry.2 entry.1 schoolClass subject
      (problem.candidateTeachers problem.buildTeachers entry.1 schoolClass.grade)
      (problem.buildRooms.filter fun room => room.suits subject.id)

/-- The lessons that a class requires. -/
def requiredHours (problem : Problem) (schoolClass : SchoolClass) : List Lesson :=
  (problem.prefixed.filter (·.1.schoolClass = schoolClass.id)).flatMap (problem.hoursUnder schoolClass)

theorem class_of_required_hour {schoolClass : SchoolClass} :
    ∀ lesson ∈ problem.requiredHours schoolClass, lesson.schoolClass = schoolClass := by
  intro lesson listed
  obtain ⟨entry, -, own⟩ := List.mem_flatMap.1 listed
  obtain ⟨subject, -, member⟩ := List.mem_flatMap.1 own
  obtain ⟨hour, -, rfl⟩ := List.mem_map.1 member
  rfl

theorem patterns_of_lessons (idPrefix : String) (requirement : Requirement) (schoolClass : SchoolClass)
    (subject : Subject) (teachers : List Teacher) (rooms : List Room) :
    (lessonsOf idPrefix requirement schoolClass subject teachers rooms).map (·.pattern) =
      List.replicate requirement.weeklyHours.toNat requirement.pattern := by
  unfold lessonsOf
  rw [List.map_map]
  exact (List.map_const' ..).trans (by rw [List.length_range])

theorem patterns_of_required_hours (valid : problem.Valid) (schoolClass : SchoolClass) :
    (problem.requiredHours schoolClass).map (·.pattern) =
      (problem.requirements.filter (·.schoolClass = schoolClass.id)).flatMap fun requirement =>
        List.replicate requirement.weeklyHours.toNat requirement.pattern := by
  have own : problem.requirements.filter (·.schoolClass = schoolClass.id) =
      (problem.prefixed.filter (·.1.schoolClass = schoolClass.id)).map (·.1) := by
    rw [← problem.requirements_prefixed, List.filter_map]
    rfl
  unfold requiredHours
  rw [own, List.map_flatMap, List.flatMap_map]
  apply List.flatMap_congr
  intro entry kept
  unfold hoursUnder
  have listed : entry.1 ∈ problem.requirements := (List.of_mem_zip (List.mem_filter.1 kept).1).1
  obtain ⟨subject, found⟩ := Option.ne_none_iff_exists'.1 (find_subject_of_valid valid listed)
  rw [found, Option.toList_some, List.flatMap_singleton]
  exact patterns_of_lessons ..

theorem count_patterns {requirements : List Requirement} (pattern : WeekPattern)
    (hours : ∀ requirement ∈ requirements, 1 ≤ requirement.weeklyHours) :
    ((requirements.flatMap fun requirement =>
      List.replicate requirement.weeklyHours.toNat requirement.pattern).count pattern : Int) =
      hoursOf requirements pattern := by
  induction requirements with
  | nil => rfl
  | cons requirement rest ih =>
      obtain ⟨own, others⟩ := List.forall_mem_cons.1 hours
      rw [List.flatMap_cons, List.count_append, List.count_replicate, hours_of_cons, ← ih others]
      by_cases same : requirement.pattern = pattern
      · simp only [same, beq_self_eq_true, if_true]
        omega
      · simp [same]

/-- A class of a snapshot is reported as overfull exactly if its required hours, on their own, cannot be given
slots such that no two of them conflict over the class. -/
theorem overfull_iff_no_seats {document : Json} (accepted : read document = .ok problem)
    {schoolClass : SchoolClass} (active : schoolClass ∈ problem.buildClasses) (weights : Weights) :
    (∃ needed, .classOverfull schoolClass.id needed (problem.slots.filter (!·.isBreak)).length ∈
      problem.overfullClasses) ↔
      ¬∃ seats, Seats weights problem.buildSlots (problem.requiredHours schoolClass) seats := by
  have valid := valid_of_read accepted
  have byId : ∀ first ∈ problem.buildSlots, ∀ second ∈ problem.buildSlots,
      first.id = second.id → first = second :=
    fun _ left _ right same => build_slots_id_injective valid left right same
  have distinct : problem.buildSlots.Nodup := (build_slots_nodup valid).of_map _
  have ownHours : ∀ requirement ∈ problem.requirements.filter (·.schoolClass = schoolClass.id),
      1 ≤ requirement.weeklyHours :=
    fun requirement kept => valid.hours requirement (List.mem_filter.1 kept).1
  have seatable : (∃ seats, Seats weights problem.buildSlots (problem.requiredHours schoolClass) seats) ↔
      slotsNeeded (problem.requirements.filter (·.schoolClass = schoolClass.id)) ≤
        ((problem.slots.filter (!·.isBreak)).length : Int) := by
    simp only [seats_iff weights class_of_required_hour byId]
    rw [seats_exist_iff distinct, patterns_of_required_hours valid, build_slots_length]
    unfold slotsNeeded
    rw [← count_patterns .every ownHours, ← count_patterns .a ownHours, ← count_patterns .b ownHours]
    omega
  rw [class_overfull_iff (List.mem_map_of_mem active), seatable, Int.not_le]

/-- A term with two slots and a break, in which class 5a has lessons of alternating weeks to put together. -/
def alternatingDocument : Json :=
  .obj [("term_id", .str "T"),
    ("time_slots", .arr
      [.obj [("id", .str "first"), ("day_of_week", .int 0), ("period", .int 1)],
        .obj [("id", .str "pause"), ("day_of_week", .int 0), ("period", .int 2), ("is_break", .bool true)],
        .obj [("id", .str "second"), ("day_of_week", .int 0), ("period", .int 3)]]),
    ("subjects", .arr [.obj [("id", .str "math"), ("name", .str "Mathematics")]]),
    ("school_classes", .arr
      [.obj [("id", .str "5a"), ("name", .str "5a"), ("grade_level", .int 5)],
        .obj [("id", .str "6a"), ("name", .str "6a"), ("grade_level", .int 6)]]),
    ("teachers", .arr [.obj [("id", .str "meier"), ("name", .str "Meier")]]),
    ("requirements", .arr
      [.obj [("school_class_id", .str "5a"), ("subject_id", .str "math"), ("weekly_hours", .int 1)],
        .obj [("school_class_id", .str "5a"), ("subject_id", .str "math"), ("weekly_hours", .int 1),
          ("week_pattern", .str "A")],
        .obj [("school_class_id", .str "5a"), ("subject_id", .str "math"), ("weekly_hours", .int 1),
          ("week_pattern", .str "B")],
        .obj [("school_class_id", .str "6a"), ("subject_id", .str "math"), ("weekly_hours", .int 2)],
        .obj [("school_class_id", .str "6a"), ("subject_id", .str "math"), ("weekly_hours", .int 1),
          ("week_pattern", .str "B")]])]

def alternating : Problem where
  term := "T"
  slots :=
    [⟨"first", 0, 1, none, none, false⟩, ⟨"pause", 0, 2, none, none, true⟩,
      ⟨"second", 0, 3, none, none, false⟩]
  rooms := []
  subjects := [⟨"math", "Mathematics", none⟩]
  classes := [⟨"5a", "5a", 5, none, none, true⟩, ⟨"6a", "6a", 6, none, none, true⟩]
  teachers := [⟨"meier", "Meier", none, 28, true⟩]
  qualifications := []
  availabilities := []
  requirements :=
    [⟨none, "5a", "math", 1, .every, []⟩, ⟨none, "5a", "math", 1, .a, []⟩, ⟨none, "5a", "math", 1, .b, []⟩,
      ⟨none, "6a", "math", 2, .every, []⟩, ⟨none, "6a", "math", 1, .b, []⟩]

set_option maxRecDepth 10000 in
theorem alternating_read : read alternatingDocument = .ok alternating := by decide +kernel

theorem alternating_hours_share_a_slot : read alternatingDocument = .ok alternating ∧
    ∃ fifth ∈ alternating.buildClasses, ∃ sixth ∈ alternating.buildClasses,
      (∃ seats, Seats Weights.standard alternating.buildSlots (alternating.requiredHours fifth) seats) ∧
        ¬∃ seats, Seats Weights.standard alternating.buildSlots (alternating.requiredHours sixth) seats := by
  have fifth : (⟨"5a", "5a", 5, none, none⟩ : SchoolClass) ∈ alternating.buildClasses := by decide
  have sixth : (⟨"6a", "6a", 6, none, none⟩ : SchoolClass) ∈ alternating.buildClasses := by decide
  refine ⟨alternating_read, _, fifth, _, sixth, ?_, ?_⟩
  · by_contra none
    have reported := (overfull_iff_no_seats alternating_read fifth .standard).2 none
    exact absurd ((class_overfull_iff (List.mem_map_of_mem fifth)).1 reported) (by decide)
  · apply (overfull_iff_no_seats alternating_read sixth .standard).1
    exact (class_overfull_iff (List.mem_map_of_mem sixth)).2 (by decide)

end Problem

end SchoolTimetable
