import Mathlib.Data.Finset.Card
import Mathlib.Data.List.TakeWhile
import SchoolTimetable.Proofs.Entries.Grouping
import SchoolTimetable.Proofs.Evaluation.Weeks
import SchoolTimetable.Proofs.Search.Completion

/-!
What the model of a placement of all lessons asks for. A model is complete if every lesson has a
variable. Its groups then say that each lesson takes one of its variables and that no two variables that
are taken meet, which is to take up a class or a teacher in one slot of the same week.
-/

namespace SchoolTimetable

section Counting

variable {Member : Type} [DecidableEq Member] {members : List Member} (nodup : members.Nodup)
  (asked : Member → Bool)

include nodup

theorem count_le_one_iff : members.countP asked ≤ 1 ↔
    ∀ first ∈ members, ∀ second ∈ members, asked first → asked second → first = second := by
  rw [List.countP_eq_length_filter, ← List.toFinset_card_of_nodup (nodup.filter _), Finset.card_le_one]
  simp only [List.mem_toFinset, List.mem_filter, and_imp]
  constructor
  · intro same first listed second other asks asksOther
    exact same first listed asks second other asksOther
  · intro same first listed asks second other asksOther
    exact same first listed second other asks asksOther

theorem count_eq_one_iff : members.countP asked = 1 ↔
    ∃ chosen ∈ members, asked chosen ∧ ∀ other ∈ members, asked other → other = chosen := by
  rw [List.countP_eq_length_filter, ← List.toFinset_card_of_nodup (nodup.filter _), Finset.card_eq_one]
  simp only [Finset.eq_singleton_iff_unique_mem, List.mem_toFinset, List.mem_filter, and_assoc, and_imp]

end Counting

namespace Choice

theorem uses_nodup (choice : Choice) : choice.uses.Nodup := by
  unfold uses
  cases choice.teacherId? <;> simp

theorem mem_uses_iff (choice : Choice) (place : String × String × Nat) : place ∈ choice.uses ↔
    place = ("class", choice.schoolClass, choice.slot) ∨
      ∃ teacher ∈ choice.teacher, place = ("teacher", teacher.id, choice.slot) := by
  unfold uses teacherId?
  cases choice.teacher <;> simp

theorem meets_iff (first second : Choice) : first.meets second ↔
    first.pattern.overlaps second.pattern ∧ ∃ place ∈ first.uses, place ∈ second.uses := by
  simp [meets]

/-- Two choices share a place if they have one slot, and a class or a teacher in common. -/
theorem shares_place_iff (first second : Choice) : (∃ place ∈ first.uses, place ∈ second.uses) ↔
    first.slot = second.slot ∧ (first.schoolClass = second.schoolClass ∨
      ∃ left ∈ first.teacher, ∃ right ∈ second.teacher, left.id = right.id) := by
  simp only [mem_uses_iff]
  constructor
  · rintro ⟨place, rfl | ⟨left, given, rfl⟩, same | ⟨right, alsoGiven, same⟩⟩
    · simp only [Prod.mk.injEq, true_and] at same
      exact ⟨same.2, .inl same.1⟩
    · simp at same
    · simp at same
    · simp only [Prod.mk.injEq, true_and] at same
      exact ⟨same.2, .inr ⟨left, given, right, alsoGiven, same.1⟩⟩
  · rintro ⟨sameSlot, sameClass | ⟨left, given, right, alsoGiven, sameTeacher⟩⟩
    · exact ⟨_, .inl rfl, .inl (by rw [sameSlot, sameClass])⟩
    · exact ⟨_, .inr ⟨left, given, rfl⟩, .inr ⟨right, alsoGiven, by rw [sameSlot, sameTeacher]⟩⟩

end Choice

theorem lesson_choices_eq_nil_iff {slots : List TimeSlot} {position : Nat} {lesson : Lesson} :
    lessonChoices slots position lesson = [] ↔ ∀ slot ∈ slots, ∀ teacher ∈ lesson.teacherOptions,
      ∃ known ∈ teacher, known.isBlockedAt slot := by
  rw [List.eq_nil_iff_forall_not_mem]
  constructor
  · intro none slot slotListed teacher offered
    obtain ⟨slotIndex, slotFound⟩ := List.mem_iff_getElem?.1 slotListed
    obtain ⟨option, optionFound⟩ := List.mem_iff_getElem?.1 offered
    by_contra free
    refine none ⟨position, slotIndex, option, lesson.schoolClass.id, teacher, lesson.pattern⟩
      (mem_lesson_choices_iff.2 ⟨slot, teacher, slotFound, optionFound, ?_, rfl⟩)
    simpa using free
  · intro away choice listed
    obtain ⟨slot, teacher, slotFound, offered, free, -⟩ := mem_lesson_choices_iff.1 listed
    obtain ⟨known, given, blocked⟩ :=
      away slot (List.mem_of_getElem? slotFound) teacher (List.mem_of_getElem? offered)
    rw [free known given] at blocked
    cases blocked

theorem nodup_numbers {Member : Type} (members : List Member) : (members.zipIdx.map (·.2)).Nodup := by
  rw [List.zipIdx_map_snd]
  exact List.nodup_range'

theorem nodup_lesson_choices (slots : List TimeSlot) (position : Nat) (lesson : Lesson) :
    (lessonChoices slots position lesson).Nodup := by
  refine List.nodup_flatMap.2 ⟨?_, ?_⟩
  · rintro ⟨slot, slotIndex⟩ -
    refine List.Nodup.filterMap ?_ (nodup_numbers lesson.teacherOptions).of_map
    rintro ⟨teacher, option⟩ ⟨other, another⟩ choice made madeAgain
    dsimp only at made madeAgain
    split at made
    · cases made
    · split at madeAgain
      · cases madeAgain
      · obtain rfl := Option.some.inj made
        simp at madeAgain
        simp [madeAgain]
  · refine (List.pairwise_map.1 (nodup_numbers slots)).imp ?_
    rintro ⟨slot, slotIndex⟩ ⟨other, otherIndex⟩ different choice listed listedAgain
    obtain ⟨⟨teacher, option⟩, -, made⟩ := List.mem_filterMap.1 listed
    obtain ⟨⟨_, _⟩, -, madeAgain⟩ := List.mem_filterMap.1 listedAgain
    dsimp only at made madeAgain
    split at made
    · cases made
    · split at madeAgain
      · cases madeAgain
      · obtain rfl := Option.some.inj made
        simp at madeAgain
        exact different madeAgain.1.symm

namespace PlacementModel

def lessonGroups (timetable : Timetable) : List (List Choice) :=
  timetable.lessons.zipIdx.map fun (lesson, position) =>
    lessonChoices timetable.slots position lesson

theorem mem_lesson_groups {timetable : Timetable} {group : List Choice} :
    group ∈ lessonGroups timetable ↔ ∃ position lesson, timetable.lessons[position]? = some lesson ∧
      group = lessonChoices timetable.slots position lesson := by
  simp only [lessonGroups, List.mem_map, Prod.exists]
  constructor
  · rintro ⟨lesson, position, listed, rfl⟩
    exact ⟨position, lesson, List.mem_zipIdx_iff_getElem?.1 listed, rfl⟩
  · rintro ⟨position, lesson, found, rfl⟩
    exact ⟨lesson, position, List.mem_zipIdx_iff_getElem?.2 found, rfl⟩

def takersOf (choices : List Choice) (place : String × String × Nat) : List Choice :=
  choices.filter fun choice => place ∈ choice.uses

theorem made_all_iff (groups : List (List Choice)) :
    (groups.takeWhile fun group => !group.isEmpty).length = groups.length ↔ [] ∉ groups := by
  constructor
  · intro whole missing
    have same := (List.takeWhile_prefix _).eq_of_length whole
    have occupied := List.takeWhile_eq_self_iff.1 same [] missing
    simp at occupied
  · intro occupied
    rw [List.takeWhile_eq_self_iff.2]
    intro group listed
    have notEmpty : group ≠ [] := fun empty => occupied (empty ▸ listed)
    simpa using notEmpty

theorem takers_of_place (choices : List Choice) (place : String × String × Nat) :
    (((choices.flatMap fun choice => choice.uses.map fun held => (held, choice)).filter
      (·.1 = place)).map (·.2)) = takersOf choices place := by
  have takers := Entries.uses_of_key Choice.uses_nodup id place choices
  rw [List.map_id] at takers
  exact takers.trans (List.filter_congr fun choice _ => decide_eq_decide.2 Iff.rfl)

theorem mem_place_groups_iff (choices : List Choice) (group : List Choice) :
    (∃ held ∈ Entries.group (·.1)
        (choices.flatMap fun choice => choice.uses.map fun place => (place, choice)),
      group ∈ placeGroups (held.2.map (·.2))) ↔
      ∃ place, group ∈ placeGroups (takersOf choices place) := by
  constructor
  · rintro ⟨⟨place, members⟩, grouped, listed⟩
    obtain ⟨rfl, -⟩ := (Entries.mem_group_iff _ _ place members).1 grouped
    rw [takers_of_place] at listed
    exact ⟨place, listed⟩
  · rintro ⟨place, listed⟩
    rw [← takers_of_place] at listed
    refine ⟨(place, _), (Entries.mem_group_iff _ _ place _).2 ⟨rfl, ?_⟩, listed⟩
    intro empty
    rw [empty] at listed
    simp [placeGroups] at listed

/-- Building stops at a lesson without variables. Otherwise each lesson has a group of its variables,
and each place has groups of those that take it up. -/
theorem build_cases (timetable : Timetable) :
    [] ∈ lessonGroups timetable ∧ (build timetable).complete = false ∨
      [] ∉ lessonGroups timetable ∧ (build timetable).complete = true ∧
        (build timetable).exactlyOne = lessonGroups timetable ∧
        ∀ group, group ∈ (build timetable).atMostOne ↔
          ∃ place, group ∈ placeGroups (takersOf (build timetable).choices place) := by
  have made := made_all_iff (lessonGroups timetable)
  by_cases missing : [] ∈ lessonGroups timetable
  · left
    refine ⟨missing, ?_⟩
    have short : ¬((lessonGroups timetable).takeWhile fun group => !group.isEmpty).length =
        (lessonGroups timetable).length := fun whole => made.1 whole missing
    unfold build
    exact congrArg complete (if_neg short)
  · right
    have whole := made.2 missing
    have same : ((lessonGroups timetable).takeWhile fun group => !group.isEmpty) =
      lessonGroups timetable := (List.takeWhile_prefix _).eq_of_length whole
    have built : build timetable = ⟨lessonGroups timetable,
        (Entries.group (·.1) ((lessonGroups timetable).flatten.flatMap fun choice =>
          choice.uses.map fun place => (place, choice))).flatMap fun held =>
            placeGroups (held.2.map (·.2)), true⟩ := by
      unfold build
      dsimp only
      exact (if_pos whole).trans (by simp only [lessonGroups] at same ⊢; rw [same])
    refine ⟨missing, by rw [built], by rw [built], ?_⟩
    intro group
    rw [built, List.mem_flatMap]
    exact mem_place_groups_iff _ group

theorem nodup_lesson_groups (timetable : Timetable) : (lessonGroups timetable).flatten.Nodup := by
  refine List.nodup_flatten.2 ⟨?_, ?_⟩
  · intro group listed
    obtain ⟨position, lesson, -, rfl⟩ := mem_lesson_groups.1 listed
    exact nodup_lesson_choices timetable.slots position lesson
  · refine List.pairwise_map.2 ((List.pairwise_map.1 (nodup_numbers timetable.lessons)).imp ?_)
    rintro ⟨lesson, position⟩ ⟨other, another⟩ different choice listed listedAgain
    exact different ((mem_lesson_choices listed).1.symm.trans (mem_lesson_choices listedAgain).1)

def ofWeek (choices : List Choice) : Week → List Choice
  | .a => choices.filter (·.pattern == .every) ++ choices.filter (·.pattern == .a)
  | .b => choices.filter (·.pattern == .every) ++ choices.filter (·.pattern == .b)

section OfWeek

variable (choices : List Choice) (week : Week)

theorem mem_of_week (choice : Choice) :
    choice ∈ ofWeek choices week ↔ choice ∈ choices ∧ choice.pattern.runsIn week := by
  cases week <;> cases pattern : choice.pattern <;> simp [ofWeek, WeekPattern.runsIn, pattern]

theorem nodup_of_week (nodup : choices.Nodup) : (ofWeek choices week).Nodup := by
  have apart : ∀ pattern : WeekPattern, pattern ≠ .every →
      (choices.filter (·.pattern == .every) ++ choices.filter (·.pattern == pattern)).Nodup := by
    intro pattern alternating
    refine List.nodup_append'.2 ⟨nodup.filter _, nodup.filter _, ?_⟩
    intro choice always sometimes
    simp only [List.mem_filter, beq_iff_eq] at always sometimes
    exact alternating (sometimes.2.symm.trans always.2)
  cases week
  · exact apart .a (by decide)
  · exact apart .b (by decide)

/-- A group of one choice or none asks for nothing, so it does not matter that it is left out. -/
theorem place_groups_iff (taken : Choice → Bool) :
    (∀ group ∈ placeGroups choices, group.countP taken ≤ 1) ↔
      ∀ week, (ofWeek choices week).countP taken ≤ 1 := by
  have groups : placeGroups choices =
      ([Week.a, .b].map (ofWeek choices)).filter fun group => 1 < group.length := rfl
  rw [groups]
  constructor
  · intro bounded week
    by_cases several : 1 < (ofWeek choices week).length
    · apply bounded
      refine List.mem_filter.2 ⟨List.mem_map.2 ⟨week, ?_, rfl⟩, decide_eq_true several⟩
      cases week <;> simp
    · exact List.countP_le_length.trans (not_lt.1 several)
  · intro bounded group listed
    obtain ⟨week, -, rfl⟩ := List.mem_map.1 (List.mem_filter.1 listed).1
    exact bounded week

end OfWeek

/-- The groups of all places allow what no two choices that meet are part of. -/
theorem apart_iff {choices : List Choice} (nodup : choices.Nodup) (taken : Choice → Bool) :
    (∀ place, ∀ group ∈ placeGroups (takersOf choices place), group.countP taken ≤ 1) ↔
      ∀ first ∈ choices, ∀ second ∈ choices, taken first → taken second →
        first.meets second → first = second := by
  have nodupTakers : ∀ place, (takersOf choices place).Nodup := fun place => nodup.filter _
  simp only [place_groups_iff]
  constructor
  · intro bounded first listed second otherListed takes takesOther meets
    -- Both are in the group of the place that they share, for a week in which both run.
    obtain ⟨overlaps, place, uses, usesToo⟩ := (Choice.meets_iff first second).1 meets
    obtain ⟨week, runs, runsToo⟩ := (WeekPattern.overlaps_iff _ _).1 overlaps
    have here : ∀ choice ∈ choices, place ∈ choice.uses → choice.pattern.runsIn week →
        choice ∈ ofWeek (takersOf choices place) week := by
      intro choice member held inWeek
      exact (mem_of_week _ week choice).2 ⟨List.mem_filter.2 ⟨member, decide_eq_true held⟩, inWeek⟩
    exact (count_le_one_iff (nodup_of_week _ week (nodupTakers place)) taken).1 (bounded place week)
      first (here first listed uses runs) second (here second otherListed usesToo runsToo)
      takes takesOther
  · intro apart place week
    refine (count_le_one_iff (nodup_of_week _ week (nodupTakers place)) taken).2 ?_
    intro first listed second otherListed takes takesOther
    obtain ⟨member, runs⟩ := (mem_of_week _ week first).1 listed
    obtain ⟨otherMember, runsToo⟩ := (mem_of_week _ week second).1 otherListed
    obtain ⟨inChoices, uses⟩ := List.mem_filter.1 member
    obtain ⟨otherInChoices, usesToo⟩ := List.mem_filter.1 otherMember
    apply apart first inChoices second otherInChoices takes takesOther
    exact (Choice.meets_iff first second).2 ⟨(WeekPattern.overlaps_iff _ _).2 ⟨week, runs, runsToo⟩,
      place, of_decide_eq_true uses, of_decide_eq_true usesToo⟩

/-- What a solution of a model says of its variables. -/
structure Solves (model : PlacementModel) (taken : Choice → Bool) : Prop where
  exactlyOne : ∀ group ∈ model.exactlyOne, group.countP taken = 1
  atMostOne : ∀ group ∈ model.atMostOne, group.countP taken ≤ 1

section Complete

variable {timetable : Timetable} (complete : (build timetable).complete = true)

include complete

theorem choices_of_complete : (build timetable).choices = (lessonGroups timetable).flatten := by
  rcases build_cases timetable with ⟨-, incomplete⟩ | ⟨-, -, groups, -⟩
  · rw [incomplete] at complete
    cases complete
  · rw [choices, groups]

theorem mem_choices_of_complete {position : Nat} {lesson : Lesson} {choice : Choice}
    (found : timetable.lessons[position]? = some lesson)
    (listed : choice ∈ lessonChoices timetable.slots position lesson) :
    choice ∈ (build timetable).choices := by
  rw [choices_of_complete complete]
  exact List.mem_flatten.2 ⟨_, mem_lesson_groups.2 ⟨position, lesson, found, rfl⟩, listed⟩

theorem solves_iff (taken : Choice → Bool) : (build timetable).Solves taken ↔
    (∀ position lesson, timetable.lessons[position]? = some lesson →
      ∃ chosen ∈ lessonChoices timetable.slots position lesson, taken chosen ∧
        ∀ other ∈ lessonChoices timetable.slots position lesson, taken other → other = chosen) ∧
    ∀ first ∈ (build timetable).choices, ∀ second ∈ (build timetable).choices,
      taken first → taken second → first.meets second → first = second := by
  have nodup : (build timetable).choices.Nodup := by
    rw [choices_of_complete complete]
    exact nodup_lesson_groups timetable
  rcases build_cases timetable with ⟨-, incomplete⟩ | ⟨-, -, groups, places⟩
  · rw [incomplete] at complete
    cases complete
  rw [← apart_iff nodup taken]
  constructor
  · rintro ⟨one, most⟩
    constructor
    · intro position lesson found
      rw [groups] at one
      exact (count_eq_one_iff (nodup_lesson_choices _ position lesson) taken).1
        (one _ (mem_lesson_groups.2 ⟨position, lesson, found, rfl⟩))
    · intro place group listed
      exact most group ((places group).2 ⟨place, listed⟩)
  · rintro ⟨one, most⟩
    constructor
    · intro group listed
      rw [groups] at listed
      obtain ⟨position, lesson, found, rfl⟩ := mem_lesson_groups.1 listed
      exact (count_eq_one_iff (nodup_lesson_choices _ position lesson) taken).2
        (one position lesson found)
    · intro group listed
      obtain ⟨place, member⟩ := (places group).1 listed
      exact most place group member

end Complete

end PlacementModel

end SchoolTimetable
