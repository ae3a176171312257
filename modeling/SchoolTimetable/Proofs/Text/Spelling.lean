import SchoolTimetable.Proofs.Text.LowerCase

/-!
Names without capitals have no word borders to mark. Once a name is respelled nothing of it changes any more,
whatever lower-casing is used, as long as it leaves no ASCII capital and does nothing a second time.
-/

namespace SchoolTimetable.Text

variable {first second : Char} {chars : List Char}

/-- A run of capitals is not ended between two characters that are not both capitals. -/
theorem split_acronyms_cons (inside : isCapital first = true → ∀ second ∈ chars.head?, isCapital second = false) :
    splitAcronyms (first :: chars) = first :: splitAcronyms chars := by
  match chars, inside with
  | [], _ => rfl
  | [_], _ => rfl
  | second :: third :: rest, inside =>
      have noBorder : ¬(isCapital first && isCapital second && isSmall third) = true := by
        simp only [Bool.and_eq_true]
        rintro ⟨⟨capital, another⟩, -⟩
        rw [inside capital second rfl] at another
        cases another
      rw [splitAcronyms, if_neg noBorder]

theorem split_capitals_cons (inside : ∀ second ∈ chars.head?, isCapital second = false) :
    splitCapitals (first :: chars) = first :: splitCapitals chars := by
  match chars, inside with
  | [], _ => rfl
  | second :: rest, inside =>
      have noBorder : ¬((isSmall first || isDecimalDigit first) && isCapital second) = true := by
        rw [inside second rfl, Bool.and_false]
        exact Bool.false_ne_true
      rw [splitCapitals, if_neg noBorder]

theorem split_capitals_border (before : isSmall first = true ∨ isDecimalDigit first = true)
    (capital : isCapital second = true) :
    splitCapitals (first :: second :: chars) = first :: '_' :: splitCapitals (second :: chars) := by
  rw [splitCapitals, if_pos]
  rw [capital, Bool.and_true, Bool.or_eq_true]
  exact before

theorem split_acronyms_of_uncapital (uncapital : ∀ char ∈ chars, isCapital char = false) :
    splitAcronyms chars = chars := by
  induction chars with
  | nil => rfl
  | cons char rest ih =>
      obtain ⟨own, others⟩ := List.forall_mem_cons.1 uncapital
      rw [split_acronyms_cons, ih others]
      intro capital
      rw [own] at capital
      cases capital

theorem split_capitals_of_uncapital (uncapital : ∀ char ∈ chars, isCapital char = false) :
    splitCapitals chars = chars := by
  induction chars with
  | nil => rfl
  | cons char rest ih =>
      have others := (List.forall_mem_cons.1 uncapital).2
      rw [split_capitals_cons, ih others]
      exact fun second atFront => others second (List.mem_of_mem_head? atFront)

theorem respell_of_uncapital (lower : List Char → List Char) (uncapital : ∀ char ∈ chars, isCapital char = false) :
    respell lower chars = lower chars := by
  rw [respell, split_acronyms_of_uncapital uncapital, split_capitals_of_uncapital uncapital]

theorem respell_idempotent {lower : List Char → List Char} (settled : ∀ text, lower (lower text) = lower text)
    (uncapital : ∀ text, ∀ char ∈ lower text, isCapital char = false) (name : List Char) :
    respell lower (respell lower name) = respell lower name := by
  have lowered : ∀ char ∈ respell lower name, isCapital char = false := uncapital _
  rw [respell_of_uncapital lower lowered]
  exact settled _

theorem underscored_of_plain {name : String} (plain : ∀ char ∈ name.toList, isPlain char) :
    underscored name = name := by
  rw [underscored, respell_of_uncapital lowerCase fun char listed => (plain_iff.1 (plain char listed)).2,
    lower_case_of_lowered fun char listed => lowered_of_plain (plain char listed), String.ofList_toList]

end SchoolTimetable.Text
