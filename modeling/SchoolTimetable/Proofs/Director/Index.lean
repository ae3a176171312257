import Mathlib.Data.Finset.Basic
import Mathlib.Data.List.Nodup
import SchoolTimetable.Proofs.Evaluation.Pairs
import SchoolTimetable.Timetable.Director

/-!
The index of a director. Putting a lesson into the index adds its position to the buckets of its keys
and to no other; taking it out removes it from them. No bucket holds a position twice and no empty
bucket is kept.
-/

namespace SchoolTimetable.Director

abbrev bucketOf (index : Std.HashMap IndexKey (List Nat)) (key : IndexKey) : List Nat :=
  index.getD key []

structure Tidy (index : Std.HashMap IndexKey (List Nat)) : Prop where
  once : ∀ key, (bucketOf index key).Nodup
  occupied : ∀ key, key ∈ index → bucketOf index key ≠ []

theorem tidy_empty : Tidy ∅ where
  once key := by simp [bucketOf]
  occupied key member := absurd member Std.HashMap.not_mem_empty

theorem bucket_add_to_index (position : Nat) (index : Std.HashMap IndexKey (List Nat))
    (key other : IndexKey) :
    bucketOf (addToIndex position index key) other =
      if key = other then (bucketOf index other).insert position else bucketOf index other := by
  unfold addToIndex bucketOf
  rw [Std.HashMap.getD_insert]
  by_cases same : key = other
  · subst same
    simp
  · simp [same]

theorem tidy_add_to_index (position : Nat) {index : Std.HashMap IndexKey (List Nat)} (tidy : Tidy index)
    (key : IndexKey) : Tidy (addToIndex position index key) where
  once other := by
    rw [bucket_add_to_index]
    split
    · exact (tidy.once other).insert
    · exact tidy.once other
  occupied other member := by
    rw [bucket_add_to_index]
    split
    · exact List.ne_nil_of_mem List.mem_insert_self
    · rename_i different
      have held : other ∈ index := by
        simpa [addToIndex, Std.HashMap.mem_insert, different] using member
      exact tidy.occupied other held

theorem bucket_remove_from_index (position : Nat) (index : Std.HashMap IndexKey (List Nat))
    (key other : IndexKey) :
    bucketOf (removeFromIndex position index key) other =
      if key = other then (bucketOf index other).erase position else bucketOf index other := by
  unfold removeFromIndex bucketOf
  by_cases same : key = other
  · subst same
    cases (index.getD key []).erase position <;> simp
  · cases rest : (index.getD key []).erase position with
    | nil => simp [same, Std.HashMap.getD_erase]
    | cons => simp [same, Std.HashMap.getD_insert]

theorem tidy_remove_from_index (position : Nat) {index : Std.HashMap IndexKey (List Nat)}
    (tidy : Tidy index) (key : IndexKey) : Tidy (removeFromIndex position index key) where
  once other := by
    rw [bucket_remove_from_index]
    split
    · exact (tidy.once other).erase position
    · exact tidy.once other
  occupied other member := by
    rw [bucket_remove_from_index]
    unfold removeFromIndex at member
    by_cases same : key = other
    · subst same
      cases rest : (index.getD key []).erase position with
      | nil => simp [rest] at member
      | cons first others => simp
    · rw [if_neg same]
      have held : other ∈ index := by
        cases rest : (index.getD key []).erase position with
        | nil => simpa [rest, Std.HashMap.mem_erase, same] using member
        | cons first others => simpa [rest, Std.HashMap.mem_insert, same] using member
      exact tidy.occupied other held

theorem mem_bucket_fold_add (position : Nat) (held : List IndexKey)
    (index : Std.HashMap IndexKey (List Nat)) (key : IndexKey) (other : Nat) :
    other ∈ bucketOf (held.foldl (addToIndex position) index) key ↔
      other ∈ bucketOf index key ∨ key ∈ held ∧ other = position := by
  induction held generalizing index with
  | nil => simp
  | cons first rest ih =>
      rw [List.foldl_cons, ih, bucket_add_to_index]
      by_cases same : first = key
      · subst same
        simp only [if_true, List.mem_insert_iff, List.mem_cons, true_or, true_and]
        tauto
      · have different : key ≠ first := fun equal => same equal.symm
        simp [same, different]

theorem tidy_fold_add (position : Nat) (held : List IndexKey)
    {index : Std.HashMap IndexKey (List Nat)} (tidy : Tidy index) :
    Tidy (held.foldl (addToIndex position) index) := by
  induction held generalizing index with
  | nil => exact tidy
  | cons first rest ih => exact ih (tidy_add_to_index position tidy first)

theorem mem_bucket_fold_remove (position : Nat) (held : List IndexKey)
    {index : Std.HashMap IndexKey (List Nat)} (tidy : Tidy index) (key : IndexKey) (other : Nat) :
    other ∈ bucketOf (held.foldl (removeFromIndex position) index) key ↔
      other ∈ bucketOf index key ∧ ¬(key ∈ held ∧ other = position) := by
  induction held generalizing index with
  | nil => simp
  | cons first rest ih =>
      rw [List.foldl_cons, ih (tidy_remove_from_index position tidy first), bucket_remove_from_index]
      by_cases same : first = key
      · subst same
        rw [if_pos rfl, (tidy.once first).mem_erase_iff]
        simp only [List.mem_cons, true_or, true_and]
        tauto
      · have different : key ≠ first := fun equal => same equal.symm
        simp [same, different]

theorem tidy_fold_remove (position : Nat) (held : List IndexKey)
    {index : Std.HashMap IndexKey (List Nat)} (tidy : Tidy index) :
    Tidy (held.foldl (removeFromIndex position) index) := by
  induction held generalizing index with
  | nil => exact tidy
  | cons first rest ih => exact ih (tidy_remove_from_index position tidy first)

theorem nodup_neighbours (director : Director) (position : Nat) (lesson : Lesson) :
    (director.neighbours position lesson).Nodup :=
  (nodup_erase_dups _).filter _

theorem mem_neighbours (director : Director) (position : Nat) (lesson : Lesson) (other : Nat) :
    other ∈ director.neighbours position lesson ↔
      other ≠ position ∧ ∃ key ∈ lesson.indexKeys, other ∈ director.bucket key := by
  simp only [neighbours, List.mem_filter, List.mem_eraseDups, List.mem_flatMap, bne_iff_ne, ne_eq]
  tauto

structure Indexes (director : Director) (positions : Finset Nat) : Prop where
  tidy : Tidy director.index
  indexed : ∀ key position, position ∈ director.bucket key ↔
    position ∈ positions ∧ ∃ lesson, director.lesson? position = some lesson ∧ key ∈ lesson.indexKeys

section Updates

variable {director : Director} {positions : Finset Nat} {position : Nat} {lesson : Lesson}

theorem Indexes.insert (indexes : director.Indexes positions)
    (found : director.lesson? position = some lesson) :
    (director.insert position lesson).Indexes (Insert.insert position positions) where
  tidy := tidy_fold_add position lesson.indexKeys indexes.tidy
  indexed key other := by
    have added := mem_bucket_fold_add position lesson.indexKeys director.index key other
    have before := indexes.indexed key other
    change other ∈ bucketOf (lesson.indexKeys.foldl (addToIndex position) director.index) key ↔ _
    rw [added, Finset.mem_insert]
    change other ∈ director.bucket key ∨ _ ↔ _
    rw [before]
    constructor
    · rintro (⟨member, held⟩ | ⟨held, rfl⟩)
      · exact ⟨.inr member, held⟩
      · exact ⟨.inl rfl, lesson, found, held⟩
    · rintro ⟨rfl | member, other, otherFound, held⟩
      · have same : other = lesson := Option.some.inj (otherFound.symm.trans found)
        exact .inr ⟨same ▸ held, rfl⟩
      · exact .inl ⟨member, other, otherFound, held⟩

theorem Indexes.retract (indexes : director.Indexes positions)
    (found : director.lesson? position = some lesson) :
    (director.retract position lesson).Indexes (positions.erase position) where
  tidy := tidy_fold_remove position lesson.indexKeys indexes.tidy
  indexed key other := by
    have removed := mem_bucket_fold_remove position lesson.indexKeys indexes.tidy key other
    have before := indexes.indexed key other
    change other ∈ bucketOf (lesson.indexKeys.foldl (removeFromIndex position) director.index) key ↔ _
    rw [removed, Finset.mem_erase]
    change other ∈ director.bucket key ∧ _ ↔ _
    rw [before]
    constructor
    · rintro ⟨⟨member, held⟩, absent⟩
      refine ⟨⟨?_, member⟩, held⟩
      rintro rfl
      obtain ⟨other, otherFound, otherHeld⟩ := held
      have same : other = lesson := Option.some.inj (otherFound.symm.trans found)
      exact absent ⟨same ▸ otherHeld, rfl⟩
    · rintro ⟨⟨different, member⟩, held⟩
      exact ⟨⟨member, held⟩, fun same => different same.2⟩

/-- A lesson outside the index may be written without an effect on the index. -/
theorem Indexes.writeLesson (indexes : director.Indexes positions) (absent : position ∉ positions) :
    (director.writeLesson position lesson).Indexes positions where
  tidy := indexes.tidy
  indexed key other := by
    rw [show (director.writeLesson position lesson).bucket key = director.bucket key from rfl,
      indexes.indexed]
    apply and_congr_right
    intro member
    have different : position ≠ other := fun same => absent (same ▸ member)
    simp [lesson?, Director.writeLesson, List.getElem?_set_ne different]

end Updates

end SchoolTimetable.Director
