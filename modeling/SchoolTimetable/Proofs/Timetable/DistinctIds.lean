import SchoolTimetable.Proofs.Timetable.LessonIds

/-!
No two lessons have one id. A prefix is looked for among the numbered variants of a key, in turn and without
a bound, and the search always ends. Prefixes are therefore distinct, whatever ids the requirements state,
and an id tells its prefix and its number.
-/

namespace SchoolTimetable

namespace Problem

/-- The text that a search for a prefix looks at in its turn: the key, then its variants from the second
on. -/
def variantOf (key : String) : Nat → String
  | 0 => key
  | turn + 1 =>
      let number := turn + 2
      s!"{key}-r{number}"

/-- A search for a prefix that is not in use, from some turn on, comes to its end. -/
inductive Finds (used : List String) (key : String) : Nat → String → Prop
  | free {turn : Nat} (unused : variantOf key turn ∉ used) : Finds used key turn (variantOf key turn)
  | next {turn : Nat} {found : String} (inUse : variantOf key turn ∈ used)
      (later : Finds used key (turn + 1) found) : Finds used key turn found

theorem variants_eq (key : String) (count : Nat) :
    (key :: (List.range count).map fun index : Nat =>
      let number := index + 2
      s!"{key}-r{number}") = (List.range (count + 1)).map (variantOf key) := by
  rw [List.range_succ_eq_map, List.map_cons, List.map_map]
  rfl

/-- The first of some variants in turn that is not in use is where the search ends. -/
theorem finds_of_find {used : List String} {key found : String} {start count : Nat}
    (first : ((List.range' start count).map (variantOf key)).find? (fun variant => !used.contains variant) =
      some found) : Finds used key start found := by
  induction count generalizing start with
  | zero => cases first
  | succ count ih =>
      rw [List.range'_succ, List.map_cons, List.find?_cons] at first
      split at first
      · rename_i unused
        obtain rfl := Option.some.inj first
        exact .free (by simpa using unused)
      · rename_i inUse
        exact .next (by simpa using inUse) (ih first)

theorem finds_free_prefix (used : List String) (key : String) :
    Finds used key 0 (freePrefix used key) := by
  have fresh := free_prefix_fresh used key
  unfold freePrefix at fresh ⊢
  dsimp only at fresh ⊢
  rw [variants_eq] at fresh ⊢
  cases found : ((List.range (used.length + 1)).map (variantOf key)).find? fun candidate =>
      !used.contains candidate with
  | some free =>
      rw [List.range_eq_range'] at found
      exact finds_of_find found
  | none =>
      -- The key itself would be among the variants and not in use.
      rw [found] at fresh
      have listed : key ∈ (List.range (used.length + 1)).map (variantOf key) :=
        List.mem_map.2 ⟨0, List.mem_range.2 (Nat.succ_pos _), rfl⟩
      have inUse : key ∈ used := by simpa using List.find?_eq_none.1 found key listed
      exact absurd inUse fresh

theorem Finds.congr {used others : List String} {key found : String} {turn : Nat}
    (same : ∀ text, text ∈ used ↔ text ∈ others) (finds : Finds used key turn found) :
    Finds others key turn found := by
  induction finds with
  | free unused => exact .free (mt (same _).2 unused)
  | next inUse _ ih => exact .next ((same _).1 inUse) ih

/-- Every requirement gets the prefix that its search ends at, with the prefixes before it in use. -/
theorem lesson_prefixes_found {requirements : List Requirement} (used : List String) {position : Nat}
    {requirement : Requirement} (here : requirements[position]? = some requirement) :
    ∃ free, (lessonPrefixes used requirements)[position]? = some free ∧
      Finds (used ++ (lessonPrefixes used requirements).take position) requirement.key 0 free := by
  induction requirements generalizing used position with
  | nil => cases here
  | cons first rest ih =>
      unfold lessonPrefixes
      dsimp only
      cases position with
      | zero =>
          obtain rfl := Option.some.inj here
          refine ⟨freePrefix used first.key, rfl, ?_⟩
          rw [List.take_zero, List.append_nil]
          exact finds_free_prefix used first.key
      | succ before =>
          obtain ⟨free, given, finds⟩ := ih (freePrefix used first.key :: used) here
          refine ⟨free, given, finds.congr ?_⟩
          intro text
          rw [List.take_succ_cons, List.mem_append, List.mem_append, List.mem_cons, List.mem_cons]
          tauto

theorem lessons_of_ids_nodup (idPrefix : String) (requirement : Requirement) (schoolClass : SchoolClass)
    (subject : Subject) (teachers : List Teacher) (rooms : List Room) :
    ((lessonsOf idPrefix requirement schoolClass subject teachers rooms).map (·.id)).Nodup := by
  unfold lessonsOf
  rw [List.map_map]
  apply List.Nodup.map _ List.nodup_range
  intro first second same
  have letters := congrArg String.toList same
  dsimp only [Function.comp_apply] at letters
  rw [lesson_id_letters, lesson_id_letters] at letters
  have digits : Nat.toDigits 10 (first + 1) = Nat.toDigits 10 (second + 1) := by simpa using letters
  have equal := digits_injective digits
  omega

variable {problem : Problem} {allowUnresourced : Bool} {requirement : Requirement} {idPrefix : String}
  {lessons : List Lesson}

theorem Serves.ids_nodup (serves : Serves problem allowUnresourced requirement idPrefix lessons) :
    (lessons.map (·.id)).Nodup := by
  cases serves with
  | inactive => exact List.nodup_nil
  | active => exact lessons_of_ids_nodup ..

theorem Serves.carries (serves : Serves problem allowUnresourced requirement idPrefix lessons)
    {lesson : Lesson} (listed : lesson ∈ lessons) : CarriesPrefix idPrefix lesson.id := by
  cases serves with
  | inactive => cases listed
  | active =>
      obtain ⟨hour, -, rfl⟩ := List.mem_map.1 listed
      exact ⟨hour + 1, rfl⟩

theorem assembled_ids_nodup {config : Config} {timetable : Timetable} {warnings : List WorkloadWarning}
    (assembled : problem.assemble config = .ok (timetable, warnings)) :
    (timetable.lessons.map (·.id)).Nodup := by
  rw [(assemble_ok assembled).1]
  change ((problem.prefixed.flatMap (problem.lessonsFor config)).map (·.id)).Nodup
  rw [List.map_flatMap, List.nodup_flatMap]
  refine ⟨fun entry listed => (serves_lessons_for assembled listed).ids_nodup, ?_⟩
  -- An id that two requirements share carries the prefix of either.
  have distinct := List.pairwise_map.1 problem.prefixes_distinct
  refine distinct.imp_of_mem ?_
  intro first second firstListed secondListed differ id inFirst inSecond
  obtain ⟨lesson, own, rfl⟩ := List.mem_map.1 inFirst
  obtain ⟨other, others, same⟩ := List.mem_map.1 inSecond
  have left := (serves_lessons_for assembled firstListed).carries own
  have right := (serves_lessons_for assembled secondListed).carries others
  rw [same] at right
  exact differ (carries_unique left right)

/-- For any ids that requirements state, the search for a prefix of each ends, with the prefixes of those
before it in use, and no two lessons of an assembled timetable have one id. -/
theorem lesson_ids_are_distinct (problem : Problem) :
    (∀ position requirement, problem.requirements[position]? = some requirement →
      ∃ free, (lessonPrefixes [] problem.requirements)[position]? = some free ∧
        Finds ((lessonPrefixes [] problem.requirements).take position) requirement.key 0 free) ∧
    ∀ config timetable warnings, problem.assemble config = .ok (timetable, warnings) →
      (timetable.lessons.map (·.id)).Nodup := by
  refine ⟨?_, fun _ _ _ assembled => assembled_ids_nodup assembled⟩
  intro position requirement here
  obtain ⟨free, given, finds⟩ := lesson_prefixes_found [] here
  rw [List.nil_append] at finds
  exact ⟨free, given, finds⟩

/-- Two requirements with one default key, and others whose ids are that key, one of its variants and an id
of its lessons. -/
def clashingKeys : Problem where
  term := "T"
  slots := [⟨"first", 0, 1, none, none, false⟩]
  rooms := [⟨"hall", none, some 30, [], true⟩]
  subjects := [⟨"math", "Mathematics", none⟩, ⟨"a-math", "Applied mathematics", none⟩]
  classes :=
    [⟨"5", "5", 5, none, none, true⟩, ⟨"5-a", "5a", 5, none, none, true⟩, ⟨"6", "6", 5, none, none, true⟩,
      ⟨"7", "7", 5, none, none, true⟩, ⟨"8", "8", 5, none, none, true⟩]
  teachers := [⟨"meier", "Meier", none, 28, true⟩]
  qualifications :=
    [⟨"meier", "math", .primary, some [5], none⟩, ⟨"meier", "a-math", .primary, some [5], none⟩]
  availabilities := []
  requirements :=
    [⟨some "5-a-math-EVERY-r2", "6", "math", 1, .every, []⟩, ⟨none, "5-a", "math", 1, .every, []⟩,
      ⟨none, "5", "a-math", 1, .every, []⟩, ⟨some "5-a-math-EVERY", "7", "math", 1, .every, []⟩,
      ⟨some "5-a-math-EVERY-1", "8", "math", 1, .every, []⟩]

set_option maxRecDepth 10000 in
theorem clashing_keys_are_told_apart : ∃ timetable warnings,
    clashingKeys.assemble .standard = .ok (timetable, warnings) ∧
      timetable.lessons.map (·.id) =
        ["5-a-math-EVERY-r2-1", "5-a-math-EVERY-1", "5-a-math-EVERY-r3-1", "5-a-math-EVERY-r4-1",
          "5-a-math-EVERY-1-1"] ∧
      (timetable.lessons.map (·.id)).Nodup := by
  have checked : (match clashingKeys.assemble .standard with
      | .ok (timetable, _) => decide (timetable.lessons.map (·.id) =
          ["5-a-math-EVERY-r2-1", "5-a-math-EVERY-1", "5-a-math-EVERY-r3-1", "5-a-math-EVERY-r4-1",
            "5-a-math-EVERY-1-1"])
      | .error _ => false) = true := by decide +kernel
  split at checked
  · rename_i timetable warnings assembled
    exact ⟨timetable, warnings, assembled, of_decide_eq_true checked,
      (lesson_ids_are_distinct clashingKeys).2 _ _ _ assembled⟩
  · cases checked

end Problem

end SchoolTimetable
