import SchoolTimetable.Proofs.Sample.Drafts
import SchoolTimetable.Proofs.Text.Digits
import SchoolTimetable.Random.Script

/-!
The teachers of a sample school. Their ids and names are distinct. Codes that are taken are told apart by the place
of the teacher, of which only two digits are kept, so of a hundred teachers no two have the same code.
-/

namespace SchoolTimetable.Sample

variable {staff : List TeacherEntry}

/-- The first letter of the first name and two letters of the last name, these as capitals. -/
def initialsOf (name : String) : String :=
  leading 1 name ++ (leading 2 (String.ofList ((name.toList.dropWhile (· ≠ ' ')).drop 1))).toUpper

/-- The code of a teacher who comes behind others: the initials, with the count of the others where they are taken. -/
def codeBehind (staff : List TeacherEntry) (name : String) : String :=
  if initialsOf name ∈ staff.map (initialsOf ·.name) then leading 5 (initialsOf name ++ toString staff.length)
  else initialsOf name

/-- Teachers that were hired one after the other, each with names of the stock that are not in use together. -/
inductive Hired : List TeacherEntry → Prop
  | none : Hired []
  | one {staff : List TeacherEntry} {first last : String} (hours : Int) (before : Hired staff)
      (firstKnown : first ∈ firstNames) (lastKnown : last ∈ lastNames)
      (unused : s!"{first} {last}" ∉ staff.map (·.name)) :
      Hired (staff ++ [⟨s!"t{staff.length + 1}", s!"{first} {last}",
        some (codeBehind staff s!"{first} {last}"), hours, true⟩])

section Initials

theorem leading_letters (count : Nat) (text : String) : (leading count text).toList = text.toList.take count :=
  String.toList_ofList

theorem full_name_letters (first last : String) :
    s!"{first} {last}".toList = first.toList ++ ' ' :: last.toList := by
  change (first ++ " " ++ last).toList = _
  simp

theorem first_names_unbroken : ∀ first ∈ firstNames, ' ' ∉ first.toList ∧ first.toList ≠ [] := by
  decide

theorem capital_ends : ∀ last ∈ lastNames, (leading 2 last).toUpper.toList.length = 2 := by
  decide +kernel

theorem initials_of_names {first last : String} (known : first ∈ firstNames) :
    initialsOf s!"{first} {last}" = leading 1 first ++ (leading 2 last).toUpper := by
  obtain ⟨unbroken, some⟩ := first_names_unbroken first known
  have start : leading 1 s!"{first} {last}" = leading 1 first := by
    apply String.toList_injective
    rw [leading_letters, leading_letters, full_name_letters]
    exact List.take_append_of_le_length (List.length_pos_iff.2 some)
  have rest : (s!"{first} {last}".toList.dropWhile (· ≠ ' ')).drop 1 = last.toList := by
    have passed : ∀ letter ∈ first.toList, (decide (letter ≠ ' ')) = true := by
      intro letter listed
      exact decide_eq_true fun same => unbroken (same ▸ listed)
    rw [full_name_letters, List.dropWhile_append_of_pos passed]
    simp
  unfold initialsOf
  rw [start, rest, String.ofList_toList]

theorem initials_length {first last : String} (firstKnown : first ∈ firstNames) (lastKnown : last ∈ lastNames) :
    (initialsOf s!"{first} {last}").toList.length = 3 := by
  have one : 1 ≤ first.toList.length := List.length_pos_iff.2 (first_names_unbroken first firstKnown).2
  rw [initials_of_names firstKnown, String.toList_append, List.length_append, capital_ends last lastKnown,
    leading_letters, List.length_take]
  omega

end Initials

section Codes

variable {text other : String}

theorem numbered_letters (size : text.toList.length = 3) (index : Nat) :
    (leading 5 (text ++ toString index)).toList = text.toList ++ (Nat.toDigits 10 index).take 2 := by
  have digits : (toString index).toList = Nat.toDigits 10 index := Nat.toList_repr
  rw [leading_letters, String.toList_append, digits, List.take_append, size, List.take_of_length_le (by omega)]

theorem numbered_ne_plain (size : text.toList.length = 3) (otherSize : other.toList.length = 3) (index : Nat) :
    leading 5 (text ++ toString index) ≠ other := by
  intro same
  have lengths := congrArg (List.length ∘ String.toList) same
  have some : 0 < (Nat.toDigits 10 index).length := List.length_pos_iff.2 Nat.toDigits_ne_nil
  simp only [Function.comp, numbered_letters size, List.length_append, List.length_take] at lengths
  omega

theorem numbered_eq_iff (size : text.toList.length = 3) (otherSize : other.toList.length = 3) (first second : Nat) :
    leading 5 (text ++ toString first) = leading 5 (other ++ toString second) ↔
      text = other ∧ leading 2 (toString first) = leading 2 (toString second) := by
  have digits : ∀ index, (leading 2 (toString index)).toList = (Nat.toDigits 10 index).take 2 := by
    intro index
    rw [leading_letters]
    exact congrArg (List.take 2) Nat.toList_repr
  rw [← String.toList_inj, numbered_letters size, numbered_letters otherSize, ← String.toList_inj,
    ← String.toList_inj, digits, digits]
  constructor
  · intro same
    exact List.append_inj same (size.trans otherSize.symm)
  · intro ⟨sameText, sameDigits⟩
    rw [sameText, sameDigits]

theorem two_digits_injective {first second : Nat} (firstSmall : first < 100) (secondSmall : second < 100)
    (same : leading 2 (toString first) = leading 2 (toString second)) : first = second := by
  have whole : ∀ index < 100, (leading 2 (toString index)).toList = Nat.toDigits 10 index := by
    intro index small
    rw [leading_letters]
    refine (List.take_of_length_le ?_).trans Nat.toList_repr
    exact Nat.toList_repr ▸ (Nat.length_toDigits_le_iff (by decide) (by decide)).2 small
  apply digits_injective
  rw [← whole first firstSmall, ← whole second secondSmall, same]

end Codes

namespace Hired

theorem initials_length (hired : Hired staff) : ∀ teacher ∈ staff, (initialsOf teacher.name).toList.length = 3 := by
  induction hired with
  | none => simp
  | one hours before firstKnown lastKnown unused ih =>
      refine List.forall_mem_append.2 ⟨ih, ?_⟩
      rw [List.forall_mem_singleton]
      exact Sample.initials_length firstKnown lastKnown

theorem names_nodup (hired : Hired staff) : (staff.map (·.name)).Nodup := by
  induction hired with
  | none => exact List.nodup_nil
  | one hours before firstKnown lastKnown unused ih =>
      rw [List.map_append, List.map_singleton]
      exact List.nodup_append.2 ⟨ih, List.nodup_singleton _, by simpa [List.disjoint_singleton] using unused⟩

theorem ids_eq (hired : Hired staff) :
    staff.map (·.id) = (List.range staff.length).map fun index => s!"t{index + 1}" := by
  induction hired with
  | none => rfl
  | one hours before firstKnown lastKnown unused ih =>
      rw [List.map_append, ih, List.length_append, List.length_singleton, List.range_succ, List.map_append]
      rfl

theorem code_at (hired : Hired staff) {index : Nat} {teacher : TeacherEntry} (here : staff[index]? = some teacher) :
    teacher.abbreviation = some (codeBehind (staff.take index) teacher.name) := by
  induction hired with
  | none => cases here
  | @one staff first last hours before firstKnown lastKnown unused ih =>
      rcases Nat.lt_trichotomy index staff.length with earlier | last | later
      · rw [List.getElem?_append_left earlier] at here
        rw [List.take_append_of_le_length earlier.le]
        exact ih here
      · subst last
        rw [List.getElem?_concat_length] at here
        obtain rfl := Option.some.inj here
        rw [List.take_left]
      · rw [List.getElem?_eq_none (by simp; omega)] at here
        cases here

/-- Initials of the usual length are in use as a code exactly if somebody has them. -/
theorem taken_iff (hired : Hired staff) {name : String} (size : (initialsOf name).toList.length = 3) :
    initialsOf name ∈ staff.filterMap (·.abbreviation) ↔ initialsOf name ∈ staff.map (initialsOf ·.name) := by
  induction hired with
  | none => simp
  | @one staff first last hours before firstKnown lastKnown unused ih =>
      have own := Sample.initials_length firstKnown lastKnown
      rw [List.filterMap_append, List.mem_append, ih, List.map_append, List.mem_append]
      change _ ∨ initialsOf name ∈ [codeBehind staff s!"{first} {last}"] ↔
        _ ∨ initialsOf name ∈ [initialsOf s!"{first} {last}"]
      rw [List.mem_singleton, List.mem_singleton]
      unfold codeBehind
      -- A code with a number is longer than initials, so it takes none away.
      by_cases taken : initialsOf s!"{first} {last}" ∈ staff.map (initialsOf ·.name)
      · rw [if_pos taken]
        constructor
        · intro used
          exact .inl (used.resolve_right fun same => numbered_ne_plain own size staff.length same.symm)
        · intro met
          exact .inl (met.elim id fun same => same ▸ taken)
      · rw [if_neg taken]

/-- Two teachers have the same code exactly if they have the same initials, these were taken before the first of them
came, and the two digits that are kept of their numbers are the same. -/
theorem same_code_iff (hired : Hired staff) {first second : Nat} (earlier : first < second)
    {teacher colleague : TeacherEntry} (here : staff[first]? = some teacher)
    (there : staff[second]? = some colleague) :
    teacher.abbreviation = colleague.abbreviation ↔
      initialsOf teacher.name = initialsOf colleague.name ∧
        (∃ other ∈ staff.take first, initialsOf other.name = initialsOf teacher.name) ∧
        leading 2 (toString first) = leading 2 (toString second) := by
  have size := hired.initials_length teacher (List.mem_of_getElem? here)
  have otherSize := hired.initials_length colleague (List.mem_of_getElem? there)
  have bound := (List.getElem?_eq_some_iff.1 here).1
  have otherBound := (List.getElem?_eq_some_iff.1 there).1
  have count : (staff.take first).length = first := List.length_take_of_le bound.le
  have otherCount : (staff.take second).length = second := List.length_take_of_le otherBound.le
  have among : teacher ∈ staff.take second :=
    List.mem_of_getElem? ((List.getElem?_take_of_lt earlier).trans here)
  rw [hired.code_at here, hired.code_at there, Option.some.injEq, ← List.mem_map]
  unfold codeBehind
  rw [count, otherCount]
  by_cases taken : initialsOf teacher.name ∈ (staff.take first).map (initialsOf ·.name)
  · rw [if_pos taken]
    split
    · rw [numbered_eq_iff size otherSize]
      exact ⟨fun ⟨same, digits⟩ => ⟨same, taken, digits⟩, fun ⟨same, _, digits⟩ => ⟨same, digits⟩⟩
    · rename_i untaken
      apply iff_of_false (numbered_ne_plain size otherSize first)
      exact fun ⟨same, _⟩ => untaken (same ▸ List.mem_map_of_mem among)
  · rw [if_neg taken]
    refine iff_of_false ?_ fun ⟨_, met, _⟩ => taken met
    split
    · exact (numbered_ne_plain otherSize size second).symm
    · rename_i untaken
      exact fun same => untaken (same ▸ List.mem_map_of_mem among)

end Hired

section Drawing

variable {Source : Type} [RandomSource Source]

theorem gives_name {used : List String} {trials : Nat} {first last : String}
    (given : Gives (drawName used trials : Sampling Source _) (first, last)) :
    first ∈ firstNames ∧ last ∈ lastNames ∧ s!"{first} {last}" ∉ used := by
  induction trials with
  | zero => exact absurd given not_gives_throw
  | succ trials ih =>
      obtain ⟨firstDrawn, firstGiven, given⟩ := gives_bind given
      obtain ⟨lastDrawn, lastGiven, given⟩ := gives_bind given
      split at given
      · exact ih given
      · rename_i unused
        obtain ⟨rfl, rfl⟩ := Prod.mk.inj (gives_pure given)
        exact ⟨gives_from firstGiven, gives_from lastGiven, by simpa using unused⟩

/-- The code that is given is the one that the names of those before tell. -/
theorem code_of_hired (hired : Hired staff) {first last : String} (firstKnown : first ∈ firstNames)
    (lastKnown : last ∈ lastNames) : codeOf (staff.filterMap (·.abbreviation)) staff.length first last =
      codeBehind staff s!"{first} {last}" := by
  have size := initials_length firstKnown lastKnown
  have whole : leading 3 (initialsOf s!"{first} {last}") = initialsOf s!"{first} {last}" := by
    apply String.toList_injective
    rw [leading_letters]
    exact List.take_of_length_le size.le
  unfold codeOf codeBehind
  rw [← initials_of_names firstKnown]
  dsimp only
  rw [whole]
  simp only [List.contains_iff_mem, hired.taken_iff size]

theorem gives_hired {trials count : Nat} {made : List TeacherEntry}
    (given : Gives (moreTeachers trials made count : Sampling Source _) staff) (hired : Hired made) :
    Hired staff := by
  induction count generalizing made with
  | zero =>
      obtain rfl := gives_pure given
      exact hired
  | succ count ih =>
      obtain ⟨⟨first, last⟩, nameGiven, given⟩ := gives_bind given
      obtain ⟨hours, -, given⟩ := gives_bind given
      obtain ⟨firstKnown, lastKnown, unused⟩ := gives_name nameGiven
      rw [code_of_hired hired firstKnown lastKnown] at given
      exact ih given (.one hours hired firstKnown lastKnown unused)

end Drawing

theorem teacher_id_injective {first second : Nat} (same : s!"t{first + 1}" = s!"t{second + 1}") : first = second := by
  have letters : ∀ index : Nat, s!"t{index + 1}".toList = 't' :: Nat.toDigits 10 (index + 1) := by
    intro index
    change ("t" ++ toString (index + 1)).toList = _
    simp
  have digits := congrArg String.toList same
  rw [letters, letters] at digits
  exact Nat.succ_injective (digits_injective (List.cons.inj digits).2)

/-- The ids and the names of the teachers that are drawn are distinct, and each has a code of five characters at most.
Two codes are the same exactly if they have the same initials, somebody before them had these already, and their
numbers, counted from zero, begin with the same two digits; so the codes of a hundred teachers are distinct. -/
theorem staff_is_distinct_unless_codes_cut {Source : Type} [RandomSource Source] {trials : Nat} {settings : Settings}
    {source rest : Source} (drawn : (teachersWithin trials settings).run source = .ok staff rest) :
    (staff.map (·.id)).Nodup ∧ (staff.map (·.name)).Nodup ∧
    (∀ teacher ∈ staff, ∃ code ∈ teacher.abbreviation, code.length ≤ 5) ∧
    (∀ first second, first < second → ∀ teacher colleague, staff[first]? = some teacher →
      staff[second]? = some colleague → (teacher.abbreviation = colleague.abbreviation ↔
        initialsOf teacher.name = initialsOf colleague.name ∧
          (∃ other ∈ staff.take first, initialsOf other.name = initialsOf teacher.name) ∧
          leading 2 (toString first) = leading 2 (toString second))) ∧
    (staff.length ≤ 100 → (staff.map (·.abbreviation)).Nodup) := by
  have hired : Hired staff := gives_hired ⟨source, rest, drawn⟩ .none
  refine ⟨?ids, hired.names_nodup, ?short, ?codes, ?few⟩
  case ids =>
    rw [hired.ids_eq]
    exact List.Nodup.map (fun first second => teacher_id_injective) List.nodup_range
  case short =>
    intro teacher listed
    obtain ⟨index, here⟩ := List.mem_iff_getElem?.1 listed
    have size := hired.initials_length teacher listed
    refine ⟨_, hired.code_at here, ?_⟩
    unfold codeBehind
    split
    · rw [← String.length_toList, leading_letters]
      exact List.length_take_le ..
    · rw [← String.length_toList, size]
      decide
  case codes =>
    intro first second earlier teacher colleague here there
    exact hired.same_code_iff earlier here there
  case few =>
    intro few
    rw [List.Nodup, List.pairwise_iff_getElem]
    intro first second firstBound secondBound earlier
    rw [List.length_map] at firstBound secondBound
    rw [List.getElem_map, List.getElem_map, ne_eq, hired.same_code_iff earlier (List.getElem?_eq_getElem firstBound)
      (List.getElem?_eq_getElem secondBound)]
    intro ⟨_, _, sameDigits⟩
    have equal := two_digits_injective (by omega) (by omega) sameDigits
    omega

def manyTeachers : Settings := { Settings.small with teachers := 101 }

/-- The names that are drawn for a teacher: a Smith with a first name in J at the places 0, 10 and 100. -/
def namesDrawn : Nat → List Float
  | 0 => [0, 0]
  | 10 => [1, 0]
  | 100 => [7, 0]
  | index => [(index % 43).toFloat, (1 + index / 43).toFloat]

def manyDraws : Script := .ofEntries ((List.range 101).flatMap fun index : Nat => namesDrawn index ++ [0])

def repeatsCode : EStateM.Result SampleFault Script (List TeacherEntry) → Bool
  | .ok staff _ => staff.length = 101 ∧ staff[10]?.map (·.abbreviation) = some (some "JSM10") ∧
      staff[100]?.map (·.abbreviation) = some (some "JSM10")
  | .error _ _ => false

theorem staff_of_repeats {outcome : EStateM.Result SampleFault Script (List TeacherEntry)}
    (repeats : repeatsCode outcome = true) : ∃ staff rest, outcome = .ok staff rest ∧ staff.length = 101 ∧
      staff[10]?.map (·.abbreviation) = some (some "JSM10") ∧
      staff[100]?.map (·.abbreviation) = some (some "JSM10") := by
  cases outcome with
  | ok staff rest => exact ⟨staff, rest, rfl, of_decide_eq_true repeats⟩
  | error fault rest => cases repeats

theorem many_drawn : repeatsCode ((teachersWithin nameTrials manyTeachers).run manyDraws) = true := by
  decide +kernel

theorem many_are_distinct : ∃ staff rest,
    (teachersWithin nameTrials manyTeachers).run manyDraws = .ok staff rest ∧ staff.length = 101 ∧
      (staff.map (·.id)).Nodup ∧ (staff.map (·.name)).Nodup := by
  obtain ⟨staff, rest, drawn, many, -⟩ := staff_of_repeats many_drawn
  obtain ⟨ids, names, -⟩ := staff_is_distinct_unless_codes_cut drawn
  exact ⟨staff, rest, drawn, many, ids, names⟩

/-- The number 100 is cut to its first two digits, so it does not tell the code from that with the number 10. -/
theorem cut_codes_coincide : ∃ staff rest,
    (teachersWithin nameTrials manyTeachers).run manyDraws = .ok staff rest ∧
      ¬(staff.map (·.abbreviation)).Nodup := by
  obtain ⟨staff, rest, drawn, -, first, second⟩ := staff_of_repeats many_drawn
  refine ⟨staff, rest, drawn, fun distinct => ?_⟩
  rw [← List.getElem?_map] at first second
  have bound := (List.getElem?_eq_some_iff.1 first).1
  have same := (List.getElem?_inj bound distinct).1 (first.trans second.symm)
  cases same

end SchoolTimetable.Sample
