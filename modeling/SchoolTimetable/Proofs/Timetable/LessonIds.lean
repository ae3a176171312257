import Mathlib.Data.List.Perm.Subperm
import SchoolTimetable.Proofs.Text.Digits
import SchoolTimetable.Proofs.Timetable.Assembled

/-!
Ids of lessons. Every requirement has a prefix of its own, and the id of a lesson, a prefix with a
number, tells both apart: a number has no dash in it.
-/

namespace SchoolTimetable

/-- The id consists of the prefix and a number. -/
def CarriesPrefix (idPrefix id : String) : Prop := ∃ number : Nat, id = s!"{idPrefix}-{number}"

/-- Lists that are cut at the last mark are equal only if they are before it. -/
theorem eq_before_last {Member : Type} {mark : Member} {first second left right : List Member}
    (leftFree : mark ∉ left) (rightFree : mark ∉ right)
    (same : first ++ mark :: left = second ++ mark :: right) : first = second := by
  rcases List.append_eq_append_iff.1 same with ⟨more, rfl, rest⟩ | ⟨more, rfl, rest⟩
  · cases more with
    | nil => exact (List.append_nil first).symm
    | cons letter others =>
        have marked : mark ∈ left := by
          injection rest with _ tail
          rw [tail]
          exact List.mem_append_right others (List.mem_cons_self ..)
        exact absurd marked leftFree
  · cases more with
    | nil => exact List.append_nil second
    | cons letter others =>
        have marked : mark ∈ right := by
          injection rest with _ tail
          rw [tail]
          exact List.mem_append_right others (List.mem_cons_self ..)
        exact absurd marked rightFree

theorem lesson_id_letters (idPrefix : String) (number : Nat) :
    s!"{idPrefix}-{number}".toList = idPrefix.toList ++ '-' :: Nat.toDigits 10 number := by
  change (idPrefix ++ "-" ++ toString number).toList = _
  simp

theorem carries_unique {first second id : String} (left : CarriesPrefix first id)
    (right : CarriesPrefix second id) : first = second := by
  obtain ⟨leftNumber, rfl⟩ := left
  obtain ⟨rightNumber, same⟩ := right
  -- A prefix may have dashes of its own, the number has none: the last dash is where it ends.
  have letters := congrArg String.toList same
  rw [lesson_id_letters, lesson_id_letters] at letters
  exact String.toList_injective
    (eq_before_last (dash_not_in_digits leftNumber) (dash_not_in_digits rightNumber) letters)

namespace Problem

theorem variant_letters (key : String) (number : Nat) :
    s!"{key}-r{number}".toList = key.toList ++ '-' :: 'r' :: Nat.toDigits 10 number := by
  change (key ++ "-r" ++ toString number).toList = _
  simp

theorem variants_nodup (key : String) (count : Nat) :
    (key :: (List.range count).map fun index : Nat =>
      let number := index + 2
      s!"{key}-r{number}").Nodup := by
  rw [List.nodup_cons]
  constructor
  · intro listed
    obtain ⟨index, -, same⟩ := List.mem_map.1 listed
    have letters := congrArg String.toList same
    rw [variant_letters] at letters
    simp at letters
  · apply List.Nodup.map _ List.nodup_range
    intro first second same
    have letters := congrArg String.toList same
    dsimp only at letters
    rw [variant_letters, variant_letters] at letters
    have digits : Nat.toDigits 10 (first + 2) = Nat.toDigits 10 (second + 2) := by
      simpa using letters
    have equal := digits_injective digits
    omega

theorem free_prefix_fresh (used : List String) (key : String) : freePrefix used key ∉ used := by
  unfold freePrefix
  dsimp only
  set variants := key :: (List.range used.length).map fun index : Nat => s!"{key}-r{index + 2}"
  have distinct : variants.Nodup := variants_nodup key used.length
  cases found : variants.find? fun candidate => !used.contains candidate with
  | some free =>
      have unused := List.find?_some found
      simpa using unused
  | none =>
      -- There is one variant more than there are texts in use.
      have taken : variants ⊆ used := by
        intro variant listed
        have used := List.find?_eq_none.1 found variant listed
        simpa using used
      have bounded := (List.subperm_of_subset distinct taken).length_le
      have longer : variants.length = used.length + 1 := by simp [variants]
      omega

theorem lesson_prefixes_fresh (requirements : List Requirement) (used : List String) :
    (lessonPrefixes used requirements).Nodup ∧
      (∀ idPrefix ∈ lessonPrefixes used requirements, idPrefix ∉ used) ∧
      (lessonPrefixes used requirements).length = requirements.length := by
  induction requirements generalizing used with
  | nil => simp [lessonPrefixes]
  | cons requirement rest ih =>
      obtain ⟨distinct, unused, length⟩ := ih (freePrefix used requirement.key :: used)
      unfold lessonPrefixes
      refine ⟨?_, ?_, by simp [length]⟩
      · apply List.nodup_cons.2 ⟨_, distinct⟩
        intro again
        exact unused _ again (List.mem_cons_self ..)
      · intro idPrefix listed
        rcases List.mem_cons.1 listed with rfl | later
        · exact free_prefix_fresh used requirement.key
        · intro before
          exact unused idPrefix later (List.mem_cons_of_mem _ before)

variable (problem : Problem)

theorem prefixes_distinct : (problem.prefixed.map (·.2)).Nodup := by
  obtain ⟨distinct, -, length⟩ := lesson_prefixes_fresh problem.requirements []
  unfold prefixed
  rw [List.map_snd_zip (by omega)]
  exact distinct

theorem requirements_prefixed : problem.prefixed.map (·.1) = problem.requirements := by
  obtain ⟨-, -, length⟩ := lesson_prefixes_fresh problem.requirements []
  exact List.map_fst_zip (by omega)

end Problem

end SchoolTimetable
